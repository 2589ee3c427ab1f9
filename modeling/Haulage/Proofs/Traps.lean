import Haulage.Proofs.Trapping.Motion
import Haulage.Proofs.Whereabouts

/-!
# No traps

Nothing that the physics computes of a convoy ever divides by zero or clamps between crossed bounds.
With every check on, each calculation has an answer, and it is the one without the checks.  Most
divisors are constants or are looked at before they divide; the others are kept from zero by what a
slice never changes: no velocity is negative, the convoy has a weight, and a braking slice starts
short of the limit point and faster than the limit.
-/

namespace Haulage

open Fixed

namespace Trapping

@[simp] theorem ok_bind {α β : Type} (value : α) (next : α → Except Trap β) :
    (Except.ok value >>= next) = next value := rfl

@[simp] theorem pure_eq_ok {α : Type} (value : α) : (pure value : Except Trap α) = .ok value := rfl

theorem mapM_ok {α β : Type} {trapping : α → Except Trap β} {plain : α → β}
    (answers : ∀ item, trapping item = .ok (plain item)) (items : List α) :
    items.mapM trapping = .ok (items.map plain) := by
  induction items with
  | nil => rfl
  | cons item items ih =>
    rw [List.mapM_cons, answers, ok_bind, ih, ok_bind, List.map_cons]
    rfl

/-- Steps that answer where something holds, and keep it, can be folded. -/
theorem foldlM_ok {σ α : Type} {trapping : σ → α → Except Trap σ} {plain : σ → α → σ}
    (holds : σ → Prop) (answers : ∀ state item, holds state →
      trapping state item = .ok (plain state item))
    (keeps : ∀ state item, holds state → holds (plain state item)) (items : List α) (state : σ)
    (starts : holds state) : items.foldlM trapping state = .ok (items.foldl plain state) := by
  induction items generalizing state with
  | nil => rfl
  | cons item items ih =>
    rw [List.foldlM_cons, answers state item starts, ok_bind, List.foldl_cons]
    exact ih _ (keeps state item starts)

theorem quotient_ok (num : Int) {den : Int} (nonzero : den ≠ 0) :
    quotient num den = .ok (.quotient num den) :=
  if_neg nonzero

theorem ratio_ok (num : Int) {den : Int} (nonzero : den ≠ 0) :
    ratio num den = .ok (.ratio num den) :=
  quotient_ok _ nonzero

theorem divInt_ok (a : Fixed) {n : Int} (nonzero : n ≠ 0) : divInt a n = .ok (a.divInt n) :=
  quotient_ok _ nonzero

theorem div_ok (a : Fixed) {b : Fixed} (pos : zero < b) : div a b = .ok (a / b) :=
  quotient_ok _ (ne_of_gt (pos_iff.mp pos))

theorem clamp_ok (a : Fixed) {low high : Fixed} (ordered : low ≤ high) :
    clamp a low high = .ok (a.clamp low high) :=
  if_neg (not_lt.mpr ordered)

theorem clampInt_ok (n : Int) {low high : Int} (ordered : low ≤ high) :
    clampInt n low high = .ok (max low (min n high)) :=
  if_neg (not_lt.mpr ordered)

theorem ofInt_eq_ofIntClamp {m n : Int} (clamped : m = max (-2147483648) (min n 2147483647)) :
    Int32.ofInt m = .ofIntClamp n := by
  apply Int32.toInt_inj.mp
  rw [toInt_ofIntClamp32, toInt_ofInt32] <;> omega

@[simp] theorem clamp32_ok (n : Int) : clamp32 n = .ok (.ofIntClamp n) := by
  rw [clamp32, clampInt_ok n (by decide), ok_bind, ofInt_eq_ofIntClamp rfl]
  rfl

-- Both checks are real.
example : div one zero = .error .zeroDivisor ∧ clamp half one zero = .error .crossedBounds := by
  decide

/-- A number below another is short of it by more than nothing, twice over as well. -/
theorem twice_sub_pos {a b : Fixed} (below : a < b) : zero < (b - a).mulInt 2 := by
  have counts : a.raw < b.raw := below
  rw [pos_iff, mulInt, raw_saturate, raw_sub]
  simp only [limit]
  omega

@[simp] theorem velocityOfKmh_ok (kmh : Int32) :
    velocityOfKmh kmh = .ok (Units.velocityOfKmh kmh) :=
  ratio_ok _ (by decide)

@[simp] theorem velocityOfSpeed_ok (speed : Int32) :
    velocityOfSpeed speed = .ok (Units.velocityOfSpeed speed) :=
  ratio_ok _ (by decide)

@[simp] theorem speedOfVelocity_ok (velocity : Fixed) :
    speedOfVelocity velocity = .ok (Units.speedOfVelocity velocity) := by
  rw [speedOfVelocity, divInt_ok _ (by decide), ok_bind, clamp32_ok]
  rfl

@[simp] theorem metresOfSteps_ok (mapScale : Fixed) (steps : Int64) :
    metresOfSteps mapScale steps = .ok (Units.metresOfSteps mapScale steps) := by
  rw [metresOfSteps, metresOfYards, ratio_ok _ (by decide)]
  rfl

theorem yardsOnMap_ok {mapScale : Fixed} (scale_pos : zero < mapScale) (metres : Fixed) :
    yardsOnMap mapScale metres = .ok (Units.yardsOnMap mapScale metres) := by
  rw [yardsOnMap, div_ok metres scale_pos, ok_bind, yardsOfMetres, divInt_ok _ (by decide)]
  rfl

@[simp] theorem secondsOfTicks_ok (mapScale : Fixed) (ticks : Int) :
    secondsOfTicks mapScale ticks = .ok (Units.secondsOfTicks mapScale ticks) :=
  divInt_ok _ (by decide)

@[simp] theorem singleWeight_ok (kg slope : Int32) :
    singleWeight kg slope = .ok (.single kg slope) := by
  have weight_eq : (0 : Int32).toInt + kg.toInt = kg.toInt := Int.zero_add _
  unfold singleWeight WeightSummary.single WeightSummary.add
  simp only [clampInt_ok slope.toInt (by decide : (-1000 : Int) ≤ 1000), ok_bind, weight_eq]
  split
  · rfl
  · rw [ratio_ok _ (by decide)]
    rfl

@[simp] theorem wayResistance_ok (way : Way) : wayResistance way = .ok way.resistance := by
  cases way <;> rfl

theorem consistAdverse_ok (consist : Consist) :
    consistAdverse consist = .ok consist.adverse := by
  rcases consist with ⟨_ | ⟨first, rest⟩, world⟩
  · rfl
  · simp only [consistAdverse, wayResistance_ok, ok_bind]
    rfl

theorem liveAdverse_ok (convoy : LiveConvoy) : liveAdverse convoy = .ok convoy.adverse := by
  apply foldlM_ok fun _ => True
  · intro summary car _
    simp only [addAdverse, wayResistance_ok, ok_bind]
    rfl
  · exact fun _ _ => id
  · trivial

@[simp] theorem brakeForce_ok (vehicle : Vehicle) :
    brakeForce vehicle = .ok vehicle.brakeForce := by
  unfold brakeForce Vehicle.brakeForce
  cases vehicle.brakeKn with
  | some kn => rfl
  | none =>
    simp only [wayResistance_ok, ok_bind]
    rfl

@[simp] theorem totalForce_ok (vehicles : List Vehicle) (world : World) (speed : UInt32) :
    totalForce vehicles world speed = .ok (Curves.totalForce vehicles world speed) :=
  clamp32_ok _

@[simp] theorem totalPower_ok (vehicles : List Vehicle) (world : World) :
    totalPower vehicles world = .ok (Curves.totalPower vehicles world) :=
  clamp32_ok _

@[simp] theorem totalBrake_ok (vehicles : List Vehicle) :
    totalBrake vehicles = .ok (Curves.totalBrake vehicles) := by
  rw [totalBrake, mapM_ok brakeForce_ok, ok_bind, clamp32_ok]
  rfl

theorem keptOr_ok {α : Type} (kept : Option α) (value : α) :
    keptOr kept (.ok value) = .ok (kept.getD value) := by
  cases kept with
  | none => rfl
  | some kept => rfl

/-- The convoy of a profile: every question has an answer. -/
def Convoy.ofProfile (profile : Profile) : Convoy where
  vehicle := profile.vehicle
  adverse := .ok profile.adverse
  force speed := .ok (profile.curves.force speed)
  brake speed := .ok (profile.curves.brake speed)
  startingForce := .ok profile.startingForce
  continuousPower := .ok profile.continuousPower

section Searches

variable {trapping : Int32 → Except Trap Bool} {holds : Int32 → Bool}

theorem coarseSearch_ok (answers : ∀ kmh, trapping kmh = .ok (holds kmh)) (cap stride : Int32)
    (fuel : Nat) (sustained : Int32) :
    coarseSearch trapping cap stride fuel sustained =
      .ok (Profile.coarseSearch holds cap stride fuel sustained) := by
  induction fuel generalizing sustained with
  | zero => rfl
  | succ fuel ih =>
    simp only [coarseSearch, Profile.coarseSearch, answers, ok_bind]
    split
    · split
      · rfl
      · exact ih _
    · rfl

theorem fineSearch_ok (answers : ∀ kmh, trapping kmh = .ok (holds kmh)) (count : Nat)
    (kmh : Int32) : fineSearch trapping count kmh = .ok (Profile.fineSearch holds count kmh) := by
  induction count generalizing kmh with
  | zero => rfl
  | succ count ih =>
    simp only [fineSearch, Profile.fineSearch, answers, ok_bind]
    split
    · exact ih _
    · rfl

theorem searchTopSpeed_ok (answers : ∀ kmh, trapping kmh = .ok (holds kmh)) (cap : Int32) :
    searchTopSpeed trapping cap = .ok (Profile.searchTopSpeed holds cap) := by
  unfold searchTopSpeed Profile.searchTopSpeed
  rw [coarseSearch_ok answers, ok_bind]
  cases Profile.coarseSearch holds cap (Profile.coarseStride cap) 4294967296 0 with
  | reachedCap => rfl
  | failed sustained failed =>
    simp only [fineSearch_ok answers]
    split
    · rfl
    · rfl

end Searches

namespace Convoy

variable (profile : Profile)

@[simp] theorem brakingForce_ok (speed : UInt32) :
    (ofProfile profile).brakingForce speed = .ok (profile.brakingForce speed) := rfl

@[simp] theorem traction_ok (velocity : Fixed) :
    (ofProfile profile).traction velocity = .ok (profile.traction velocity) := by
  simp only [traction, Profile.traction]
  split
  · rfl
  · rfl

@[simp] theorem drag_ok (velocity : Fixed) :
    (ofProfile profile).drag velocity = .ok (profile.drag velocity) := rfl

@[simp] theorem resistance_ok (weight : WeightSummary) :
    (ofProfile profile).resistance weight = .ok (profile.resistance weight) := rfl

@[simp] theorem speedLimit_ok : (ofProfile profile).speedLimit = .ok profile.speedLimit := rfl

@[simp] theorem holdingForce_ok (velocity resistance : Fixed) :
    (ofProfile profile).holdingForce velocity resistance =
      .ok (profile.holdingForce velocity resistance) := by
  simp only [holdingForce, traction_ok, drag_ok, ok_bind]
  rfl

@[simp] theorem sustains_ok (resistance velocity : Fixed) :
    (ofProfile profile).sustains resistance velocity =
      .ok (profile.sustains resistance velocity) := by
  simp only [sustains, traction_ok, drag_ok, ok_bind]
  rfl

theorem maxSpeed_ok (weight : WeightSummary) :
    (ofProfile profile).maxSpeed weight = .ok (profile.maxSpeed weight) := by
  have search (resistance : Fixed) : searchTopSpeed ((ofProfile profile).sustainsKmh resistance) =
      fun cap => .ok (Profile.searchTopSpeed (profile.sustainsKmh resistance) cap) := by
    funext cap
    apply searchTopSpeed_ok
    intro kmh
    rw [sustainsKmh, velocityOfKmh_ok, ok_bind, sustains_ok]
    rfl
  simp only [maxSpeed, Profile.maxSpeed, speedLimit_ok, ok_bind, resistance_ok, search]
  split
  · rfl
  · change (if profile.vehicle.isEmpty = true then _ else
      if profile.startingForce < profile.resistance weight then _ else _) = _
    split
    · rfl
    · split
      · rfl
      · rfl

@[simp] theorem resistancePerTonne_ok (slope : Int32) :
    (ofProfile profile).resistancePerTonne slope = .ok (profile.resistancePerTonne slope) := by
  rw [resistancePerTonne, singleWeight_ok, ok_bind, resistance_ok]
  rfl

@[simp] theorem maxStartingWeight_ok (slope : Int32) :
    (ofProfile profile).maxStartingWeight slope = .ok (profile.maxStartingWeight slope) := by
  simp only [maxStartingWeight, Profile.maxStartingWeight, resistancePerTonne_ok, ok_bind]
  split
  · next opposed =>
    change (div profile.startingForce _ >>= _) = _
    rw [div_ok _ (isPositive_iff.mp opposed), ok_bind]
    rfl
  · rfl

theorem maxWeight_ok (slope : Int32) :
    (ofProfile profile).maxWeight slope = .ok (profile.maxWeight slope) := by
  have moving (kmh : Int32) : zero < max (Units.velocityOfKmh kmh) Units.slowestVelocity :=
    lt_of_lt_of_le (by decide) (le_max_right _ _)
  simp only [maxWeight, Profile.maxWeight, resistancePerTonne_ok, ok_bind, speedLimit_ok,
    velocityOfKmh_ok]
  split
  · next opposed =>
    change (div profile.continuousPower _ >>= _) = _
    simp only [div_ok _ (moving _), div_ok _ (isPositive_iff.mp opposed), ok_bind, traction_ok,
      drag_ok, maxStartingWeight_ok]
    rfl
  · rfl

@[simp] theorem binForce_ok (resistance : Fixed) (bin : Nat) :
    (ofProfile profile).binForce resistance bin = .ok (profile.binForce resistance bin) := rfl

theorem throughBin_ok (resistance mass : Fixed) (bin : Nat) (top below : Fixed) :
    (ofProfile profile).throughBin resistance mass bin top below =
      .ok (profile.throughBin resistance mass bin top below) := by
  simp only [throughBin, Profile.throughBin, binForce_ok, ok_bind]
  split
  · next slowed =>
    rw [div_ok _ (isPositive_iff.mp slowed), ok_bind]
    rfl
  · split
    · rfl
    · rfl

theorem stoppingDistance_ok (resistance mass : Fixed) (bin : Nat) :
    (ofProfile profile).stoppingDistance resistance mass bin =
      .ok (profile.stoppingDistance resistance mass bin) := by
  induction bin with
  | zero => rfl
  | succ bin ih => rw [stoppingDistance, ih, ok_bind, throughBin_ok, Profile.stoppingDistance]

theorem brakingDistance_ok (weight : WeightSummary) (velocity : Fixed) :
    (ofProfile profile).brakingDistance weight velocity =
      .ok (profile.brakingDistance weight velocity) := by
  simp only [brakingDistance, Profile.brakingDistance, Profile.brakingDistanceBy, resistance_ok,
    stoppingDistance_ok, throughBin_ok, ok_bind]
  split
  · split
    · rfl
    · rfl
  · rfl

theorem brakingSteps_ok {mapScale : Fixed} (scale_pos : zero < mapScale) (weight : WeightSummary)
    (speed : Int32) :
    (ofProfile profile).brakingSteps mapScale weight speed =
      .ok (profile.brakingSteps mapScale weight speed) := by
  have whole (steps : Int) : clampInt steps 0 2147483647 >>= (fun kept => .ok (.ofInt kept)) =
      .ok (Int32.ofIntClamp (max 0 steps)) := by
    rw [clampInt_ok steps (by decide), ok_bind, ofInt_eq_ofIntClamp]
    omega
  simp only [brakingSteps, Profile.brakingSteps, Profile.wholeSteps, velocityOfSpeed_ok,
    brakingDistance_ok, yardsOnMap_ok scale_pos, ok_bind]
  split
  · rfl
  · exact whole _

end Convoy

theorem bisect_ok {trapping : Fixed → Except Trap Bool} {passes : Fixed → Bool}
    (answers : ∀ velocity, trapping velocity = .ok (passes velocity)) (count : Nat)
    (low high : Fixed) :
    bisect trapping count low high = .ok (Haulage.bisect passes count low high) := by
  induction count generalizing low high with
  | zero => rfl
  | succ count ih =>
    rw [bisect, divInt_ok _ (by decide), ok_bind, answers, ok_bind, Haulage.bisect]
    split
    · exact ih _ _
    · exact ih _ _

@[simp] theorem metresBetween_ok (start stop seconds : Fixed) :
    metresBetween start stop seconds = .ok (Haulage.metresBetween start stop seconds) := by
  rw [metresBetween, divInt_ok _ (by decide), ok_bind]
  rfl

section LimitAhead

variable {limit : LimitAhead} {trapping : Fixed → Except Trap Fixed} {brake : Fixed → Fixed}
  {head : Head}

theorem fits_ok (answers : ∀ velocity, trapping velocity = .ok (brake velocity))
    (seconds next : Fixed) :
    fits limit trapping head seconds next = .ok (limit.fits brake head seconds next) := by
  simp only [fits, LimitAhead.fits, metresBetween_ok, answers, ok_bind]
  split
  · rfl
  · rfl

theorem fastestFit_ok (answers : ∀ velocity, trapping velocity = .ok (brake velocity))
    (seconds low high : Fixed) :
    fastestFit limit trapping head seconds low high =
      .ok (limit.fastestFit brake head seconds low high) := by
  simp only [fastestFit, LimitAhead.fastestFit, fits_ok answers, bisect_ok (fits_ok answers _),
    ok_bind, Bool.or_eq_true, decide_eq_true_eq]
  by_cases empty : high ≤ low
  · rw [if_pos empty, if_pos (.inl empty)]
  · rw [if_neg empty]
    split
    · next low_fits =>
      have tried : ¬(high ≤ low ∨ (!limit.fits brake head seconds low) = true) := by
        simp [empty, low_fits]
      rw [if_neg tried]
      split
      · rfl
      · rfl
    · next low_fails =>
      rw [if_pos (.inr (by simpa using low_fails))]
      rfl

/-- Ahead of the limit point and faster than the limit, neither divisor of a braking slice is
zero. -/
theorem approach_ok (answers : ∀ velocity, trapping velocity = .ok (brake velocity))
    (ahead : head.place < limit.place) (limit_nonneg : zero ≤ limit.velocity)
    (faster : limit.velocity < head.velocity) (most seconds : Fixed) :
    approach limit trapping head most seconds = .ok (limit.approach brake head most seconds) := by
  have left_pos : zero < (limit.place - head.place).mulInt 2 := twice_sub_pos ahead
  have sum_pos : zero < head.velocity + limit.velocity :=
    lt_of_lt_of_le (limit_nonneg.trans_lt faster) (le_add_right limit_nonneg)
  simp only [approach, approachCurve, LimitAhead.approach, div_ok _ left_pos, div_ok _ sum_pos,
    fastestFit_ok answers, metresBetween_ok, ok_bind]
  split
  · next mild =>
    split
    · next reached =>
      rw [if_pos ⟨mild, reached⟩]
      rfl
    · next short =>
      rw [if_neg fun both => short both.2]
      rfl
  · next hard =>
    rw [if_neg fun both => hard both.1]
    rfl

-- At the limit point itself there is nothing left to divide by.
example : approach ⟨zero, zero, zero⟩ .ok ⟨zero, one⟩ one one = .error .zeroDivisor := by decide

end LimitAhead

/-- A drive with every question answered. -/
def Drive.ofPlain (drive : Haulage.Drive) : Drive where
  convoy := .ofProfile drive.profile
  mass := drive.mass
  resistance := drive.resistance
  mapScale := drive.mapScale
  wanted := drive.wanted
  limit := drive.limit
  brakePlace := drive.brakePlace
  brake velocity := .ok (drive.brake velocity)

namespace Drive

variable {drive : Haulage.Drive} {head : Head}

@[simp] theorem convoy_ofPlain (drive : Haulage.Drive) :
    (ofPlain drive).convoy = .ofProfile drive.profile := rfl

@[simp] theorem resistance_ofPlain (drive : Haulage.Drive) :
    (ofPlain drive).resistance = drive.resistance := rfl

@[simp] theorem limit_ofPlain (drive : Haulage.Drive) : (ofPlain drive).limit = drive.limit := rfl

@[simp] theorem pastLimit_ofPlain (drive : Haulage.Drive) (head : Head) :
    (ofPlain drive).pastLimit head = drive.pastLimit head := rfl

@[simp] theorem pastBrake_ofPlain (drive : Haulage.Drive) (head : Head) :
    (ofPlain drive).pastBrake head = drive.pastBrake head := rfl

theorem brake_ok (drive : Haulage.Drive) (velocity : Fixed) :
    (ofPlain drive).brake velocity = .ok (drive.brake velocity) := rfl

@[simp] theorem target_ofPlain (drive : Haulage.Drive) (head : Head) :
    (ofPlain drive).target head = drive.target head := rfl

@[simp] theorem settle_ok (low high : Fixed) :
    (ofPlain drive).settle low high = .ok (drive.settle low high) := by
  have answers := Convoy.sustains_ok drive.profile drive.resistance
  simp only [settle, Haulage.Drive.settle, convoy_ofPlain, resistance_ofPlain, answers, ok_bind,
    bisect_ok answers]
  split
  · rfl
  · rfl

@[simp] theorem surplus_ok (velocity : Fixed) :
    (ofPlain drive).surplus velocity = .ok (drive.surplus velocity) := by
  simp only [surplus, convoy_ofPlain, resistance_ofPlain, Convoy.traction_ok, Convoy.drag_ok,
    ok_bind]
  rfl

@[simp] theorem retardation_ok (velocity : Fixed) :
    (ofPlain drive).retardation velocity = .ok (drive.retardation velocity) := rfl

theorem pushed_ok (mass_pos : zero < drive.mass) (velocity force seconds : Fixed) :
    (ofPlain drive).pushed velocity force seconds = .ok (drive.pushed velocity force seconds) := by
  change (div force drive.mass >>= _) = _
  rw [div_ok force mass_pos, ok_bind]
  rfl

/-- Each clamp of a candidate is between a standstill, the target and the velocity, in the order in
which the case has them. -/
theorem candidate_ok (sound : drive.Sound) (velocity_nonneg : zero ≤ head.velocity)
    (seconds : Fixed) :
    (ofPlain drive).candidate head seconds = .ok (drive.candidate head seconds) := by
  have rate_ok : div (drive.retardation head.velocity) (ofPlain drive).mass =
      .ok (drive.retardation head.velocity / drive.mass) := div_ok _ sound.mass_pos
  simp only [candidate, Haulage.Drive.candidate, target_ofPlain, surplus_ok, retardation_ok,
    convoy_ofPlain, resistance_ofPlain, Convoy.holdingForce_ok, Convoy.drag_ok,
    pushed_ok sound.mass_pos, rate_ok, ok_bind]
  split
  · rw [clamp_ok _ (sound.target_nonneg head), ok_bind]
    split
    · exact settle_ok _ _
    · rfl
  · split
    · next above => exact clamp_ok _ above.le
    · exact clamp_ok _ velocity_nonneg

@[simp] theorem fitsAhead_ok (seconds next : Fixed) :
    (ofPlain drive).fitsAhead head seconds next =
      .ok (drive.pastLimit head || drive.limit.fits drive.brake head seconds next) := by
  simp only [fitsAhead, pastLimit_ofPlain, limit_ofPlain, fits_ok (brake_ok drive)]
  cases drive.pastLimit head with
  | false => rfl
  | true => rfl

theorem sliceOf_ok (sound : drive.Sound) (velocity_nonneg : zero ≤ head.velocity)
    (seconds : Fixed) :
    (ofPlain drive).sliceOf head seconds = .ok (drive.sliceOf head seconds) := by
  have rate_ok : div (drive.retardation head.velocity) (ofPlain drive).mass =
      .ok (drive.retardation head.velocity / drive.mass) := div_ok _ sound.mass_pos
  simp only [sliceOf, Haulage.Drive.sliceOf, candidate_ok sound velocity_nonneg, fitsAhead_ok,
    pastLimit_ofPlain, pastBrake_ofPlain, limit_ofPlain, retardation_ok, rate_ok,
    fastestFit_ok (brake_ok drive), metresBetween_ok, ok_bind]
  split
  · next braking =>
    refine .trans ?_ (congrArg Except.ok (if_pos braking).symm)
    simp only [Haulage.Drive.pastLimit, Bool.and_eq_true, Bool.not_eq_eq_eq_not, Bool.not_true,
      decide_eq_false_iff_not, not_le] at braking
    have faster : drive.limit.velocity < head.velocity := of_decide_eq_true braking.1.2
    exact approach_ok (brake_ok drive) braking.1.1 sound.limit_nonneg faster _ seconds
  · next free =>
    refine .trans ?_ (congrArg Except.ok (if_neg free).symm)
    split
    · rfl
    · rfl

theorem slice_ok (sound : drive.Sound) (velocity_nonneg : zero ≤ head.velocity) (ticks : Nat) :
    (ofPlain drive).slice head ticks = .ok (drive.slice head ticks) := by
  change (secondsOfTicks drive.mapScale ticks >>= _) = _
  rw [secondsOfTicks_ok, ok_bind]
  exact sliceOf_ok sound velocity_nonneg _

/-- No slice turns the convoy back, so no slice traps. -/
theorem run_ok (sound : drive.Sound) (velocity_nonneg : zero ≤ head.velocity)
    (lengths : List Nat) : (ofPlain drive).run head lengths = .ok (drive.run head lengths) :=
  foldlM_ok (fun head => zero ≤ head.velocity) (fun _ ticks nonneg => slice_ok sound nonneg ticks)
    (fun _ ticks nonneg => (sound.slice_bounds nonneg ticks).2.1) lengths head velocity_nonneg

end Drive

theorem drive_ok (profile : Profile) (weight : WeightSummary) (request : MoveRequest) :
    (Convoy.ofProfile profile).drive weight request =
      .ok (Drive.ofPlain (profile.drive weight request)) := by
  have brake_eq : (Convoy.ofProfile profile).brakingDistance weight =
      fun velocity => .ok (profile.brakingDistance weight velocity) :=
    funext (Convoy.brakingDistance_ok profile weight)
  simp only [Convoy.drive, Convoy.wantedVelocity, velocityOfSpeed_ok, velocityOfKmh_ok,
    metresOfSteps_ok, Convoy.resistance_ok, Convoy.speedLimit_ok, brake_eq, ok_bind]
  rfl

@[simp] theorem stateVelocity_ok (state : MotionState) :
    stateVelocity state = .ok state.velocity := by
  rw [stateVelocity, velocityOfSpeed_ok, ok_bind]
  rfl

theorem settleState_ok {mapScale : Fixed} (scale_pos : zero < mapScale) (state : MotionState)
    (head : Head) :
    settleState state mapScale head = .ok (Profile.settleState state mapScale head) := by
  simp only [settleState, speedOfVelocity_ok, velocityOfSpeed_ok, yardsOnMap_ok scale_pos, ok_bind]
  rfl

theorem move_ok (profile : Profile) {request : MoveRequest} (scale_pos : zero < request.mapScale)
    (weight : WeightSummary) (state : MotionState) :
    (Convoy.ofProfile profile).move request weight state =
      .ok (profile.move request weight state) := by
  unfold Convoy.move
  split
  · next still => rw [Profile.move, if_pos still]
  · next running =>
    split
    · next weightless => rw [Profile.move, if_neg running, if_pos weightless]
    · next heavy =>
      have weight_pos := Int32.not_le.mp heavy
      have sound := profile.drive_sound scale_pos.le weight_pos
      rw [Profile.move_of_running state (Int64.not_le.mp running) weight_pos, drive_ok, ok_bind,
        stateVelocity_ok, ok_bind, Drive.run_ok sound state.velocity_nonneg, ok_bind,
        settleState_ok scale_pos]
      rfl

end Trapping

/-- Something that knows the vehicles of a convoy, and where they stand with every check on. -/
class TrappingSource (σ : Type) [Source σ] extends VehicleSource σ where
  /-- Where the vehicles stand, with every check on. -/
  adverse : σ → Except Trap AdverseSummary
  /-- It is known, and the same as without the checks. -/
  adverse_ok : ∀ source : σ, adverse source = .ok (Source.adverseSummary source)

instance : TrappingSource Consist where
  adverse := Trapping.consistAdverse
  adverse_ok := Trapping.consistAdverse_ok

instance : TrappingSource LiveConvoy where
  adverse := Trapping.liveAdverse
  adverse_ok := Trapping.liveAdverse_ok

namespace Memo

variable {σ : Type} [Source σ] [TrappingSource σ]

/-- What is asked of a memo, with every check on. -/
def trapping (memo : Memo σ) : Trapping.Convoy :=
  .ofCache memo.cache memo.vehicle (TrappingSource.adverse memo.source)
    (VehicleSource.vehicles memo.source) (VehicleSource.world memo.source)

/-- Whatever is kept, the checks change nothing of what a memo knows. -/
theorem trapping_eq (memo : Memo σ) : memo.trapping = .ofProfile memo.profile := by
  have curves_eq := VehicleSource.curves_eq memo.source
  have force_eq := funext (Trapping.totalForce_ok (VehicleSource.vehicles memo.source)
    (VehicleSource.world memo.source))
  simp only [trapping, Trapping.Convoy.ofCache, Trapping.Convoy.ofProfile, profile,
    TrappingSource.adverse_ok, Trapping.velocityOfKmh_ok, Trapping.totalPower_ok,
    Trapping.totalBrake_ok, Trapping.ok_bind, Trapping.pure_eq_ok, Trapping.keptOr_ok, curves_eq,
    force_eq]
  rfl

/-- On any map, and whatever is kept of the convoy, no calculation divides by zero or clamps between
crossed bounds: with every check on, each has the answer that it has without. -/
theorem never_traps (memo : Memo σ) {world : World} (validated : world.validate = .ok ())
    {request : MoveRequest} (scale_eq : request.mapScale = world.mapScale)
    (weight : WeightSummary) (slope speed : Int32) (velocity : Fixed) (state : MotionState) :
    memo.trapping.maxSpeed weight = .ok (memo.ask (.maxSpeed weight)).1 ∧
      memo.trapping.maxStartingWeight slope = .ok (memo.ask (.maxStartingWeight slope)).1 ∧
      memo.trapping.maxWeight slope = .ok (memo.ask (.maxWeight slope)).1 ∧
      memo.trapping.brakingDistance weight velocity =
        .ok (memo.ask (.brakingDistance weight velocity)).1 ∧
      memo.trapping.brakingSteps world.mapScale weight speed =
        .ok (memo.ask (.brakingSteps world.mapScale weight speed)).1 ∧
      memo.trapping.move request weight state = .ok (memo.ask (.move request weight state)).1 := by
  have scale_pos := World.mapScale_pos validated
  rw [memo.trapping_eq]
  exact ⟨Trapping.Convoy.maxSpeed_ok _ weight, Trapping.Convoy.maxStartingWeight_ok _ slope,
    Trapping.Convoy.maxWeight_ok _ slope, Trapping.Convoy.brakingDistance_ok _ weight velocity,
    Trapping.Convoy.brakingSteps_ok _ scale_pos weight speed,
    Trapping.move_ok _ (scale_eq ▸ scale_pos) weight state⟩

/-- A shunter that runs at 150 units of speed stops eight steps ahead, with every check on. -/
theorem shunter_stops_checked :
    let world : World := {}
    let memo : Memo Consist := ⟨⟨[.engine "Shunter" .track 40 60 200], world⟩, .empty⟩
    let weight := WeightSummary.single 40000 5
    let request := MoveRequest.stopIn 640 world.mapScale 400 8
    world.validate = .ok () ∧ request.mapScale = world.mapScale ∧
      memo.trapping.maxStartingWeight 20 = .ok 731029 ∧
      memo.trapping.brakingSteps world.mapScale weight 100 = .ok 4 ∧
      memo.trapping.move request weight (.atSpeed 150) = .ok { yards := 32768 } := by
  intro world memo weight request
  have validated : world.validate = .ok () := by decide
  have scale_eq : request.mapScale = world.mapScale := rfl
  obtain ⟨-, starting_eq, -, -, steps_eq, move_eq⟩ :=
    memo.never_traps validated scale_eq weight 20 100 zero (.atSpeed 150)
  refine ⟨validated, scale_eq, ?_, ?_, ?_⟩
  · rw [starting_eq, Except.ok.injEq]
    decide +kernel
  · rw [steps_eq, Except.ok.injEq]
    decide +kernel
  · rw [move_eq, Except.ok.injEq]
    decide +kernel

end Memo

end Haulage
