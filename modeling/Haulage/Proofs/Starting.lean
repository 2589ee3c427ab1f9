import Haulage.Proofs.Cruising

/-!
# Which convoys start

What a standing convoy gains in a slice is the surplus of its force over its mass, times the length
of the slice, and both operations round.  A gain that is rounded away leaves the convoy standing, in
this slice and in every one after it, although its force exceeds its resistance.
-/

namespace Haulage

open Fixed

theorem le_bisect (passes : Fixed → Bool) (count : Nat) {low high : Fixed} (nonneg : zero ≤ low)
    (le : low ≤ high) (small : high.raw ≤ 4611686018427387903) :
    low ≤ bisect passes count low high := by
  induction count generalizing low high with
  | zero => exact le_rfl
  | succ count ih =>
    have low_le := le_midpoint nonneg le small
    have le_high := midpoint_le (nonneg.trans le) le le_rfl
    rw [bisect]
    split
    · exact low_le.trans (ih (nonneg.trans low_le) le_high small)
    · exact ih nonneg low_le ((le_def.mp le_high).trans small)

/-- The lowest of the midpoints that so many halvings of `zero … high` may try. -/
def lowestTrial : Nat → Fixed → Fixed
  | 0, high => high
  | count + 1, high => lowestTrial count ((zero + high).divInt 2)

theorem raw_half_up {high : Fixed} (nonneg : zero ≤ high) :
    ((zero + high).divInt 2).raw = (high.raw + 1) / 2 := by
  have fits := high.raw_le_limit
  rw [nonneg_iff] at nonneg
  rw [raw_midpoint, raw_add, raw_zero]
  simp only [limit] at *
  omega

theorem lowestTrial_bounds (count : Nat) {high : Fixed} (nonneg : zero ≤ high) :
    zero ≤ lowestTrial count high ∧ lowestTrial count high ≤ high := by
  induction count generalizing high with
  | zero => exact ⟨nonneg, le_rfl⟩
  | succ count ih =>
    obtain ⟨trial_nonneg, trial_le⟩ := ih (midpoint_nonneg le_rfl nonneg)
    exact ⟨trial_nonneg, trial_le.trans (midpoint_le nonneg nonneg le_rfl)⟩

/-- Into how many parts so many halvings cut an interval. -/
def parts : Nat → Int
  | 0 => 1
  | count + 1 => 2 * parts count

/-- The lowest trial is one part of the whole, rounded up. -/
theorem raw_lowestTrial (count : Nat) {high : Fixed} (nonneg : zero ≤ high) :
    (lowestTrial count high).raw = (high.raw + (parts count - 1)) / parts count := by
  induction count generalizing high with
  | zero => simp [lowestTrial, parts]
  | succ count ih =>
    have whole_eq : (high.raw + 1) / 2 + (parts count - 1) =
        (high.raw + (2 * parts count - 1)) / 2 := by omega
    rw [lowestTrial, ih (midpoint_nonneg le_rfl nonneg), raw_half_up nonneg, whole_eq,
      Int.ediv_ediv_of_nonneg (by decide), parts]

theorem half_up_pos {high : Fixed} (pos : zero < high) : zero < (zero + high).divInt 2 := by
  have middle_eq := raw_half_up pos.le
  rw [pos_iff] at pos ⊢
  omega

/-- A search from a standstill ends above it just if its lowest trial passes. -/
theorem bisect_pos_iff {passes : Fixed → Bool}
    (antitone : ∀ low high, zero ≤ low → low ≤ high → passes high = true → passes low = true)
    (count : Nat) {high : Fixed} (pos : zero < high) (small : high.raw ≤ 87381333333) :
    zero < bisect passes (count + 1) zero high ↔ passes (lowestTrial (count + 1) high) = true := by
  induction count generalizing high with
  | zero =>
    rw [bisect, lowestTrial, lowestTrial]
    by_cases passed : passes ((zero + high).divInt 2) = true
    · rw [if_pos passed]
      exact iff_of_true (half_up_pos pos) passed
    · rw [if_neg passed]
      exact iff_of_false (lt_irrefl zero) passed
  | succ count ih =>
    have middle_pos := half_up_pos pos
    have middle_le : (zero + high).divInt 2 ≤ high := midpoint_le pos.le pos.le le_rfl
    rw [bisect, lowestTrial]
    by_cases passed : passes ((zero + high).divInt 2) = true
    · have trial := lowestTrial_bounds (count + 1) middle_pos.le
      rw [if_pos passed]
      exact iff_of_true
        (middle_pos.trans_le (le_bisect _ _ middle_pos.le middle_le (small.trans (by decide))))
        (antitone _ _ trial.1 trial.2 passed)
    · rw [if_neg passed]
      exact ih middle_pos ((le_def.mp middle_le).trans small)

namespace Drive

variable {drive : Drive} {head : Head} {seconds : Fixed}

/-- What a standing convoy gains in a time, m/s. -/
def gain (drive : Drive) (seconds : Fixed) : Fixed :=
  (drive.profile.startingForce - drive.resistance) / drive.mass * seconds

/-- Whether a time starts a standing convoy: it gains something, and traction sustains the lowest
velocity that the search for an equilibrium tries. -/
def Starts (drive : Drive) (seconds : Fixed) : Prop :=
  zero < drive.gain seconds ∧
    drive.profile.sustains drive.resistance
      (lowestTrial bisections (min (drive.gain seconds) drive.wanted)) = true

/-- A drive with nothing ahead of a convoy that is wanted to move. -/
structure Ready (drive : Drive) : Prop where
  /-- Its numbers have the signs that a request gives them. -/
  sound : drive.Sound
  /-- Nothing is ahead. -/
  free : drive.Free
  /-- Traction falls and drag rises. -/
  regular : drive.profile.Regular
  /-- The resistance is a result of rounded arithmetic. -/
  resistance_ge : -Fixed.limit ≤ drive.resistance.raw
  /-- It is wanted to move. -/
  wanted_pos : zero < drive.wanted
  /-- The velocity wanted is at most the one that stands for "unlimited". -/
  wanted_le : drive.wanted.raw ≤ 87381333333

theorem surplus_zero (regular : drive.profile.Regular) :
    drive.surplus zero = drive.profile.startingForce - drive.resistance := by
  have bounds := regular.raw_traction_bounds zero
  have sub_eq : drive.profile.startingForce - zero = drive.profile.startingForce := by
    rw [Profile.traction_zero] at bounds
    apply ext_raw
    rw [raw_sub, raw_zero]
    simp only [Fixed.limit]
    omega
  rw [surplus, Profile.traction_zero, Profile.drag_zero, sub_eq]

theorem gain_nonpos (sound : drive.Sound) (seconds_nonneg : zero ≤ seconds)
    (surplus_nonpos : drive.profile.startingForce - drive.resistance ≤ zero) :
    drive.gain seconds ≤ zero :=
  mul_nonpos (div_nonpos surplus_nonpos sound.mass_pos) seconds_nonneg

/-- A slice leaves a standstill just if its time starts the convoy. -/
theorem Ready.candidate_pos_iff (ready : drive.Ready) (standing : head.velocity = zero)
    (seconds_nonneg : zero ≤ seconds) :
    zero < drive.candidate head seconds ↔ drive.Starts seconds := by
  have antitone : ∀ low high, zero ≤ low → low ≤ high →
      drive.profile.sustains drive.resistance high = true →
        drive.profile.sustains drive.resistance low = true :=
    fun low high nonneg le => ready.regular.sustains_of_le nonneg le
  unfold candidate
  simp only [ready.free.target_eq, standing, if_pos ready.wanted_pos, surplus_zero ready.regular]
  have pushed_eq : drive.pushed zero (drive.profile.startingForce - drive.resistance) seconds =
      zero + drive.gain seconds := rfl
  rw [pushed_eq]
  by_cases gains : zero < drive.gain seconds
  · have pushes : (drive.profile.startingForce - drive.resistance).isPositive = true := by
      rw [isPositive_iff]
      by_contra nonpos
      exact absurd gains
        (not_lt.mpr (gain_nonpos ready.sound seconds_nonneg (not_lt.mp nonpos)))
    have next_eq : (zero + drive.gain seconds).clamp zero drive.wanted =
        min (drive.gain seconds) drive.wanted := by
      rw [zero_add_of_nonneg gains.le]
      exact clamp_of_le gains.le
    have next_pos : zero < min (drive.gain seconds) drive.wanted := lt_min gains ready.wanted_pos
    have next_small : (min (drive.gain seconds) drive.wanted).raw ≤ 87381333333 :=
      (le_def.mp (min_le_right _ _)).trans ready.wanted_le
    rw [if_pos pushes, next_eq]
    unfold settle
    simp only
    split
    · next held =>
      have trial := lowestTrial_bounds bisections next_pos.le
      exact iff_of_true next_pos ⟨gains, antitone _ _ trial.1 trial.2 held⟩
    · exact (bisect_pos_iff antitone 11 next_pos next_small).trans (and_iff_right gains).symm
  · refine iff_of_false (not_lt.mpr ?_) fun starts => gains starts.1
    have next_nonpos : (zero + drive.gain seconds).clamp zero drive.wanted ≤ zero :=
      clamp_le_of_le le_rfl (add_le_left le_rfl (not_lt.mp gains))
    split
    · unfold settle
      simp only
      split
      · exact next_nonpos
      · exact bisect_le _ _ le_rfl le_rfl next_nonpos
    · exact next_nonpos

/-- A convoy on its way: its velocity is not above the one wanted, and traction sustains it. -/
structure Rolling (drive : Drive) (head : Head) : Prop where
  /-- It moves. -/
  moves : zero < head.velocity
  /-- It is not faster than wanted. -/
  velocity_le : head.velocity ≤ drive.wanted
  /-- Traction covers drag and resistance. -/
  sustained : drive.profile.sustains drive.resistance head.velocity = true

/-- A convoy on its way does not slow down while nothing is ahead. -/
theorem Rolling.le_candidate (rolling : drive.Rolling head) (ready : drive.Ready)
    (seconds_nonneg : zero ≤ seconds) : head.velocity ≤ drive.candidate head seconds := by
  rcases rolling.velocity_le.lt_or_eq with slower | reached
  · have surplus_nonneg : zero ≤ drive.surplus head.velocity :=
      ready.regular.surplus_nonneg rolling.moves.le ready.resistance_ge rolling.sustained
    have pushed_ge : head.velocity ≤
        drive.pushed head.velocity (drive.surplus head.velocity) seconds :=
      le_add_right (mul_nonneg (div_nonneg surplus_nonneg ready.sound.mass_pos) seconds_nonneg)
    have next_ge : head.velocity ≤ (drive.pushed head.velocity (drive.surplus head.velocity)
        seconds).clamp zero drive.wanted := le_clamp_of_le pushed_ge slower.le
    have next_le : (drive.pushed head.velocity (drive.surplus head.velocity) seconds).clamp zero
        drive.wanted ≤ drive.wanted := clamp_le ready.sound.wanted_nonneg
    unfold candidate settle
    simp only [ready.free.target_eq, if_pos slower]
    split
    · split
      · exact next_ge
      · have small := (le_def.mp next_le).trans ready.wanted_le
        exact le_bisect _ _ rolling.moves.le next_ge (small.trans (by decide))
    · exact next_ge
  · rw [ready.free.candidate_of_holding ready.sound ready.regular ready.resistance_ge reached
      rolling.sustained]

theorem Rolling.sliceOf (rolling : drive.Rolling head) (ready : drive.Ready)
    (seconds_nonneg : zero ≤ seconds) : drive.Rolling (drive.sliceOf head seconds) := by
  have faster := rolling.le_candidate ready seconds_nonneg
  rw [ready.free.sliceOf_eq ready.sound rolling.moves.le rolling.velocity_le seconds_nonneg]
  rcases ready.sound.candidate_le_or_sustained rolling.moves.le seconds_nonneg with
    stays | ⟨sustained, aimed⟩
  · have same := le_antisymm stays faster
    rw [same]
    exact ⟨rolling.moves, rolling.velocity_le, rolling.sustained⟩
  · rw [ready.free.target_eq] at aimed
    exact ⟨rolling.moves.trans_le faster, aimed, sustained⟩

/-- A time that starts a standing convoy sets it on its way. -/
theorem Ready.rolling_of_starts (ready : drive.Ready) (standing : head.velocity = zero)
    (seconds_nonneg : zero ≤ seconds) (starts : drive.Starts seconds) :
    drive.Rolling (drive.sliceOf head seconds) := by
  have moves := (ready.candidate_pos_iff standing seconds_nonneg).mpr starts
  rw [ready.free.sliceOf_eq ready.sound standing.ge (standing.le.trans ready.sound.wanted_nonneg)
    seconds_nonneg]
  rcases ready.sound.candidate_le_or_sustained standing.ge seconds_nonneg with
    stays | ⟨sustained, aimed⟩
  · exact absurd (moves.trans_le stays) (standing ▸ lt_irrefl zero)
  · rw [ready.free.target_eq] at aimed
    exact ⟨moves, aimed, sustained⟩

/-- Any other time leaves it where it is. -/
theorem Ready.sliceOf_of_not_starts (ready : drive.Ready) (seconds_nonneg : zero ≤ seconds)
    (stays : ¬ drive.Starts seconds) : drive.sliceOf ⟨zero, zero⟩ seconds = ⟨zero, zero⟩ := by
  have candidate_eq : drive.candidate ⟨zero, zero⟩ seconds = zero := by
    have nonneg : zero ≤ drive.candidate ⟨zero, zero⟩ seconds :=
      ready.sound.candidate_nonneg le_rfl seconds
    have moves_iff : zero < drive.candidate ⟨zero, zero⟩ seconds ↔ drive.Starts seconds :=
      ready.candidate_pos_iff rfl seconds_nonneg
    exact le_antisymm (not_lt.mp (mt moves_iff.mp stays)) nonneg
  have covered_eq : metresBetween zero zero seconds = zero := by
    have mean_eq : (zero + zero).divInt 2 = zero := by decide
    rw [metresBetween, mean_eq, Fixed.zero_mul]
  rw [ready.free.sliceOf_eq ready.sound le_rfl ready.sound.wanted_nonneg seconds_nonneg,
    candidate_eq, covered_eq]
  rfl

/-- A run of slices from a standstill moves the convoy just if one of them starts it; else the
convoy stays where it is. -/
theorem Ready.run_of_standing (ready : drive.Ready) (lengths : List Nat) :
    ((∃ length ∈ lengths, drive.Starts (Units.secondsOfTicks drive.mapScale length)) ∧
        zero < (drive.run ⟨zero, zero⟩ lengths).velocity) ∨
      (¬ (∃ length ∈ lengths, drive.Starts (Units.secondsOfTicks drive.mapScale length)) ∧
        drive.run ⟨zero, zero⟩ lengths = ⟨zero, zero⟩) := by
  have seconds_nonneg := Units.secondsOfTicks_nonneg ready.sound.mapScale_nonneg
  induction lengths with
  | nil => exact .inr ⟨by simp, rfl⟩
  | cons length lengths ih =>
    by_cases starts : drive.Starts (Units.secondsOfTicks drive.mapScale length)
    · have rolling : drive.Rolling (drive.slice ⟨zero, zero⟩ length) :=
        ready.rolling_of_starts rfl (seconds_nonneg length) starts
      have reached := drive.run_preserves drive.Rolling
        (fun head ticks before => before.sliceOf ready (seconds_nonneg ticks)) _ lengths rolling
      exact .inl ⟨⟨length, List.mem_cons_self, starts⟩, reached.moves⟩
    · have stays : drive.run ⟨zero, zero⟩ (length :: lengths) = drive.run ⟨zero, zero⟩ lengths :=
        congrArg (drive.run · lengths) (ready.sliceOf_of_not_starts (seconds_nonneg length) starts)
      rw [stays]
      simp only [List.mem_cons, exists_eq_or_imp, starts, false_or]
      exact ih

end Drive

/-- No slice is longer than the first one. -/
theorem le_of_mem_slices {count length : Nat} (length_mem : length ∈ slices count) :
    length ≤ min count sliceTicks := by
  have rest_lt : count % sliceTicks < sliceTicks := Nat.mod_lt _ (by decide)
  rcases List.mem_append.mp length_mem with full | rest
  · obtain ⟨some_full, rfl⟩ := List.mem_replicate.mp full
    simp only [sliceTicks] at *
    omega
  · split at rest
    · exact absurd rest List.not_mem_nil
    · rw [List.mem_singleton.mp rest]
      exact le_min (Nat.mod_le _ _) rest_lt.le

theorem longest_mem_slices {count : Nat} (pos : 0 < count) :
    min count sliceTicks ∈ slices count := by
  rw [slices, List.mem_append]
  by_cases short : count < sliceTicks
  · have rest_eq : count % sliceTicks = count := Nat.mod_eq_of_lt short
    rw [rest_eq, if_neg pos.ne', min_eq_left short.le]
    exact .inr List.mem_cons_self
  · rw [min_eq_right (not_lt.mp short), List.mem_replicate]
    refine .inl ⟨?_, rfl⟩
    simp only [sliceTicks] at *
    omega

theorem Units.secondsOfTicks_mono {mapScale : Fixed} (nonneg : zero ≤ mapScale) {short long : Nat}
    (le : short ≤ long) : secondsOfTicks mapScale short ≤ secondsOfTicks mapScale long :=
  divInt_le_divInt (by decide)
    (saturate_mono (Int.mul_le_mul_of_nonneg_left (Int.ofNat_le.mpr le) nonneg))

namespace Profile

variable {profile : Profile} {weight : WeightSummary} {mapScale : Fixed} {ticks : Int64}
  {target : Int32}

theorem Regular.drive_ready (regular : profile.Regular) (scale_nonneg : zero ≤ mapScale)
    (weight_pos : 0 < weight.weight) (target_ge : Units.speedOfKmh 1 ≤ target)
    (moves : 0 < profile.speedLimit) :
    (profile.drive weight (.cruise ticks mapScale target)).Ready where
  sound := drive_sound scale_nonneg weight_pos
  free := profile.drive_free weight ticks mapScale target
  regular := regular
  resistance_ge := Regular.resistance_ge profile weight
  wanted_pos := by
    have target_le : (Units.speedOfKmh 1).toInt ≤ (max target 0).toInt := by
      rw [toInt_max32]
      exact (Int32.le_iff_toInt_le.mp target_ge).trans (le_max_left _ _)
    have limit_le : (1 : Int32).toInt ≤ (max profile.speedLimit 0).toInt := by
      rw [toInt_max32]
      exact le_max_of_le_left (Int32.lt_iff_toInt_lt.mp moves)
    apply lt_min
    · exact lt_of_lt_of_le (by decide) (Units.velocityOfSpeed_mono target_le)
    · exact lt_of_lt_of_le (by decide) (Units.velocityOfKmh_mono limit_le)
  wanted_le := regular.wantedVelocity_le_unlimited _

/-- A convoy with vehicles and a top speed can hold one km/h. -/
theorem Regular.sustains_slowest (regular : profile.Regular)
    (manned : profile.vehicle.isEmpty = false) (top_pos : 0 < profile.maxSpeed weight) :
    0 < profile.speedLimit ∧
      profile.sustains (profile.resistance weight) (Units.velocityOfKmh 1) = true := by
  have moves : 0 < profile.speedLimit := by
    by_contra stuck
    rw [maxSpeed] at top_pos
    simp only [if_pos (Int32.not_lt.mp stuck)] at top_pos
    exact absurd top_pos Int32.lt_irrefl
  have starts : profile.resistance weight ≤ profile.startingForce := by
    by_contra heavy
    rw [maxSpeed_of_startingForce_lt moves manned (not_le.mp heavy)] at top_pos
    exact absurd top_pos Int32.lt_irrefl
  have top := regular.maxSpeed_isTopSpeed moves manned starts
  refine ⟨moves, top.holds_le 1 (by decide) ?_⟩
  rw [Int32.lt_iff_toInt_lt] at top_pos
  rw [Int32.le_iff_toInt_le]
  exact top_pos

/-- A head that has not moved is stored as a standstill. -/
theorem settleState_standing (state : MotionState) (scale_pos : zero < mapScale) :
    settleState state mapScale ⟨zero, zero⟩ = { state with speed := 0, residue := zero } := by
  have yards_eq : Units.yardsOnMap mapScale zero = 0 := by
    rw [Units.yardsOnMap, Fixed.zero_div scale_pos]
    decide
  have speed_eq : Units.speedOfVelocity zero = 0 := by decide
  have residue_eq : zero - Units.velocityOfSpeed 0 = zero := by decide
  rw [settleState]
  simp only [yards_eq, speed_eq, residue_eq, Int.add_zero, Int64.ofInt_toInt]

/-- A call from a standstill moves the convoy just if one of its slices starts it; else the convoy
stands where it stood. -/
theorem move_of_standing {request : MoveRequest}
    (ready : (profile.drive weight request).Ready) (scale_pos : zero < request.mapScale)
    (ticks_pos : 0 < request.engineTicks) (weight_pos : 0 < weight.weight) {state : MotionState}
    (standing : state.velocity = zero) :
    let drive := profile.drive weight request
    let starts := ∃ length ∈ requestSlices request,
      drive.Starts (Units.secondsOfTicks request.mapScale length)
    let moved := profile.move request weight state
    (zero < moved.velocity ↔ starts) ∧
      (¬ starts → moved = { state with speed := 0, residue := zero }) := by
  intro drive starts moved
  have start_eq : startHead state = ⟨zero, zero⟩ := by rw [startHead, standing]
  have moved_eq : moved = settleState state request.mapScale
      (drive.run ⟨zero, zero⟩ (requestSlices request)) := by
    rw [← start_eq]
    exact move_of_running state ticks_pos weight_pos
  rw [moved_eq]
  rcases ready.run_of_standing (requestSlices request) with ⟨started, moves⟩ | ⟨stays, run_eq⟩
  · rw [velocity_settleState _ _ moves.le]
    exact ⟨iff_of_true moves started, fun none => absurd started none⟩
  · rw [run_eq, velocity_settleState _ _ le_rfl]
    exact ⟨iff_of_false (lt_irrefl zero) stays, fun _ => settleState_standing state scale_pos⟩

/-- A convoy that can hold one km/h starts in the longest slice of a call or not at all, unless it
is wanted to be so fast that the search for an equilibrium tries more than that. -/
theorem starts_iff_gain {drive : Drive} (ready : drive.Ready)
    (slowest : drive.profile.sustains drive.resistance (Units.velocityOfKmh 1) = true)
    (slow : drive.wanted.raw ≤ 1193046016) {count : Nat} (pos : 0 < count) :
    (∃ length ∈ slices count, drive.Starts (Units.secondsOfTicks drive.mapScale length)) ↔
      zero < drive.gain (Units.secondsOfTicks drive.mapScale (min count sliceTicks : Nat)) := by
  have scale_nonneg := ready.sound.mapScale_nonneg
  constructor
  · rintro ⟨length, length_mem, gains, -⟩
    have seconds_le := Units.secondsOfTicks_mono scale_nonneg (le_of_mem_slices length_mem)
    have pushes : zero ≤ (drive.profile.startingForce - drive.resistance) / drive.mass := by
      by_contra brakes
      exact absurd gains (not_lt.mpr (mul_nonpos (not_le.mp brakes).le
        (Units.secondsOfTicks_nonneg scale_nonneg length)))
    exact gains.trans_le (Fixed.mul_le_mul_left pushes seconds_le)
  · intro gains
    refine ⟨_, longest_mem_slices pos, gains, ?_⟩
    have next_pos := lt_min gains ready.wanted_pos
    have trial_nonneg := (lowestTrial_bounds bisections next_pos.le).1
    apply ready.regular.sustains_of_le trial_nonneg _ slowest
    have one_kmh : (Units.velocityOfKmh 1).raw = 291271 := by decide
    have next_le := le_def.mp (min_le_right
      (drive.gain (Units.secondsOfTicks drive.mapScale (min count sliceTicks : Nat))) drive.wanted)
    have parts_eq : parts bisections = 4096 := rfl
    rw [le_def, raw_lowestTrial bisections next_pos.le, parts_eq, one_kmh]
    omega

end Profile

namespace Memo

variable {σ : Type}

/-- A cruise from a standstill starts a convoy just if the gain of velocity in one of its slices is
not rounded away, and traction sustains the lowest velocity that the search for an equilibrium then
tries.  Up to 4095 km/h it does, so the longest slice decides.  A convoy that does not start stands
where it stood, although its top speed is positive. -/
theorem starts_iff_gain_kept [Source σ] [VehicleSource σ] (memo : Memo σ)
    (agrees : memo.cache.Agrees memo.source) {world : World} (validated : world.validate = .ok ())
    {ticks : Int64} (ticks_pos : 0 < ticks) (weight : WeightSummary)
    (weight_pos : 0 < weight.weight) {target : Int32} (target_ge : Units.speedOfKmh 1 ≤ target)
    (manned : (memo.ask .vehicle).1.isEmpty = false) (top_pos : 0 < (memo.ask (.maxSpeed weight)).1)
    {state : MotionState} (standing : state.velocity = zero) :
    let request : MoveRequest := .cruise ticks world.mapScale target
    let moved := (memo.ask (.move request weight state)).1
    let resistance := (memo.ask (.resistance weight)).1
    let acceleration :=
      ((memo.ask .startingForce).1 - resistance) / .ofInt weight.weight.toInt
    let gain := fun length : Nat => acceleration * Units.secondsOfTicks world.mapScale length
    let wanted :=
      min (Units.velocityOfSpeed target) (Units.velocityOfKmh (memo.ask .speedLimit).1)
    let sustained := fun velocity : Fixed =>
      (memo.ask .adverse).1.drag * velocity * velocity + resistance ≤
        (memo.ask (.traction velocity)).1
    let starts := ∃ length ∈ Profile.requestSlices request,
      zero < gain length ∧ sustained (lowestTrial bisections (min (gain length) wanted))
    (zero < moved.velocity ↔ starts) ∧
      (¬ starts → moved = { state with speed := 0, residue := zero }) ∧
      (target ≤ 52428 → (starts ↔ zero < gain (min ticks.toInt.toNat sliceTicks))) := by
  simp -zeta only [ask_answer agrees] at manned top_pos ⊢
  intro request moved resistance acceleration gain wanted sustained starts
  have regular := VehicleSource.regular memo.source
  have scale_pos := World.mapScale_pos validated
  obtain ⟨moves, slowest⟩ := regular.sustains_slowest manned top_pos
  let drive := (Profile.ofSource memo.source).drive weight request
  have ready : drive.Ready := regular.drive_ready scale_pos.le weight_pos target_ge moves
  have target_nonneg : 0 ≤ target.toInt :=
    (by decide : 0 ≤ (Units.speedOfKmh 1).toInt).trans (Int32.le_iff_toInt_le.mp target_ge)
  have wanted_eq : drive.wanted = wanted := by
    change min (Units.velocityOfSpeed (max target 0)) (Units.velocityOfKmh (max _ 0)) = _
    rw [max_zero_of_nonneg target_nonneg,
      max_zero_of_nonneg (Int32.lt_iff_toInt_lt.mp moves).le]
    rfl
  have starts_iff : starts ↔ ∃ length ∈ Profile.requestSlices request,
      drive.Starts (Units.secondsOfTicks world.mapScale length) := by
    apply exists_congr
    intro length
    apply and_congr_right
    intro _
    rw [Drive.Starts, wanted_eq, Profile.sustains, decide_eq_true_eq]
    rfl
  obtain ⟨moves_iff, stays⟩ :=
    Profile.move_of_standing ready scale_pos ticks_pos weight_pos standing
  refine ⟨moves_iff.trans starts_iff.symm, fun none => stays (mt starts_iff.mpr none), ?_⟩
  intro slow
  have ticks_toInt : 0 < ticks.toInt := Int64.lt_iff_toInt_lt.mp ticks_pos
  have count_pos : 0 < min ticks.toInt.toNat mostTicks := lt_min (by omega) (by decide)
  have longest_eq : min (min ticks.toInt.toNat mostTicks) sliceTicks =
      min ticks.toInt.toNat sliceTicks := by
    rw [min_assoc]
    rfl
  have wanted_small : drive.wanted.raw ≤ 1193046016 := by
    have target_le : target.toInt ≤ 52428 := Int32.le_iff_toInt_le.mp slow
    have aimed := le_def.mp (min_le_left (Units.velocityOfSpeed target)
      (Units.velocityOfKmh (Profile.ofSource memo.source).speedLimit))
    rw [wanted_eq]
    apply aimed.trans
    rw [Units.raw_velocityOfSpeed]
    omega
  rw [starts_iff, ← longest_eq]
  exact Profile.starts_iff_gain ready slowest wanted_small count_pos

/-- A freight engine of 200 kN. -/
def freightEngine : Vehicle :=
  { name := "Freight", way := .track, tonnes := 80, topKmh := 120, powerKw := 5000,
    effortKn := 200 }

/-- With 3997280 kg it starts. -/
theorem freight_starts :
    let world : World := {}
    let memo : Memo Consist := ⟨⟨[freightEngine], world⟩, .empty⟩
    let moved := (memo.ask (.move (.cruise 64 world.mapScale 1280) (.single 3997280 0) {})).1
    zero < moved.velocity := by
  intro world memo moved
  have manned : (memo.ask .vehicle).1.isEmpty = false := by decide +kernel
  have top_pos : 0 < (memo.ask (.maxSpeed (.single 3997280 0))).1 := by decide +kernel
  obtain ⟨moves_iff, -, gains_iff⟩ := memo.starts_iff_gain_kept (Cache.agrees_empty _)
    (by decide : world.validate = .ok ()) (by decide : (0 : Int64) < 64) (.single 3997280 0)
    (by decide) (by decide : Units.speedOfKmh 1 ≤ 1280) manned top_pos
    (by decide : ({} : MotionState).velocity = zero)
  exact moves_iff.mpr ((gains_iff (by decide)).mpr (by decide +kernel))

/-- With 20 kg more it could hold one km/h, but does not start. -/
theorem freight_stands :
    let world : World := {}
    let memo : Memo Consist := ⟨⟨[freightEngine], world⟩, .empty⟩
    let weight : WeightSummary := .single 3997300 0
    freightEngine.validate = .ok () ∧ world.validate = .ok () ∧ 0 < weight.weight ∧
      0 < (memo.ask (.maxSpeed weight)).1 ∧
      (memo.ask (.move (.cruise 64 world.mapScale 1280) weight {})).1 = {} := by
  intro world memo weight
  refine ⟨rfl, rfl, ?_, ?_, ?_⟩
  · decide
  · decide +kernel
  · decide +kernel

end Memo

end Haulage
