import Haulage.Proofs.Cruising

/-!
# Cruising in two calls

With nothing ahead, what a slice does follows from the velocity alone, and a state stores the
velocity without loss.  So a cruise that is cut at the end of a slice ends with the same velocity as
in one call.  Yards are rounded once for each call, which makes a difference of one at most.
-/

namespace Haulage

open Fixed

/-- Clamping only cuts off at the top, so it does not matter which sum is taken first. -/
theorem Fixed.add_assoc_of_nonneg {a b c : Fixed} (a_nonneg : zero ≤ a) (b_nonneg : zero ≤ b)
    (c_nonneg : zero ≤ c) : a + b + c = a + (b + c) := by
  have a_le := a.raw_le_limit
  have c_le := c.raw_le_limit
  rw [nonneg_iff] at a_nonneg b_nonneg c_nonneg
  apply ext_raw
  simp only [raw_add, limit] at *
  omega

/-- Full slices come before the rest of a call. -/
theorem slices_add {first : Nat} (full : first % sliceTicks = 0) (rest : Nat) :
    slices (first + rest) = slices first ++ slices rest := by
  obtain ⟨count, rfl⟩ := Nat.dvd_of_mod_eq_zero full
  have count_eq : (sliceTicks * count + rest) / sliceTicks = count + rest / sliceTicks :=
    Nat.mul_add_div (by decide) count rest
  have rest_eq : (sliceTicks * count + rest) % sliceTicks = rest % sliceTicks :=
    Nat.mul_add_mod sliceTicks count rest
  have first_eq : sliceTicks * count / sliceTicks = count := Nat.mul_div_cancel_left _ (by decide)
  rw [slices, count_eq, rest_eq, slices, first_eq, full, if_pos rfl, List.append_nil, slices,
    ← List.append_assoc, List.replicate_append_replicate]

namespace Drive

variable {drive : Drive}

/-- Where the convoy is does not matter with nothing ahead. -/
theorem Free.candidate_anywhere (free : drive.Free) (place other velocity seconds : Fixed) :
    drive.candidate ⟨place, velocity⟩ seconds = drive.candidate ⟨other, velocity⟩ seconds := by
  unfold candidate
  simp only [free.target_eq]

/-- A run with nothing ahead goes as far from any place, and ends with the same velocity. -/
theorem Free.run_from (free : drive.Free) (sound : drive.Sound) {place velocity : Fixed}
    (place_nonneg : zero ≤ place) (velocity_nonneg : zero ≤ velocity)
    (velocity_le : velocity ≤ drive.wanted) (lengths : List Nat) :
    drive.run ⟨place, velocity⟩ lengths =
      ⟨place + (drive.run ⟨zero, velocity⟩ lengths).place,
        (drive.run ⟨zero, velocity⟩ lengths).velocity⟩ := by
  induction lengths generalizing place velocity with
  | nil => exact congrArg (Head.mk · velocity) (add_zero_of_nonneg place_nonneg).symm
  | cons ticks lengths ih =>
    have seconds_nonneg := Units.secondsOfTicks_nonneg sound.mapScale_nonneg ticks
    obtain ⟨next, next_eq⟩ : ∃ next, drive.candidate ⟨zero, velocity⟩
      (Units.secondsOfTicks drive.mapScale ticks) = next := ⟨_, rfl⟩
    have next_nonneg : zero ≤ next := next_eq ▸ sound.candidate_nonneg velocity_nonneg _
    have next_le : next ≤ drive.wanted :=
      next_eq ▸ (sound.candidate_le velocity_nonneg seconds_nonneg).trans (max_le velocity_le le_rfl)
    obtain ⟨stride, stride_eq⟩ : ∃ stride, metresBetween velocity next
      (Units.secondsOfTicks drive.mapScale ticks) = stride := ⟨_, rfl⟩
    have stride_nonneg : zero ≤ stride := stride_eq ▸
      LimitAhead.metresBetween_nonneg velocity_nonneg next_nonneg seconds_nonneg
    have slice_eq : ∀ start : Fixed,
        drive.slice ⟨start, velocity⟩ ticks = ⟨start + stride, next⟩ := by
      intro start
      rw [slice, free.sliceOf_eq sound velocity_nonneg velocity_le seconds_nonneg,
        free.candidate_anywhere start zero, next_eq, stride_eq]
    -- The first slice ends with the same velocity from everywhere, so the rest runs alike as well.
    have rest_nonneg := (sound.run_bounds ⟨zero, next⟩ next_nonneg next_le le_rfl lengths).1
    change drive.run (drive.slice _ ticks) lengths =
      ⟨place + (drive.run (drive.slice _ ticks) lengths).place,
        (drive.run (drive.slice _ ticks) lengths).velocity⟩
    rw [slice_eq, slice_eq, zero_add_of_nonneg stride_nonneg,
      ih (add_nonneg place_nonneg stride_nonneg) next_nonneg next_le,
      ih stride_nonneg next_nonneg next_le,
      add_assoc_of_nonneg place_nonneg stride_nonneg rest_nonneg]

end Drive

namespace Units

/-- A distance of few yards is not cut off anywhere. -/
theorem near_of_few_yards {mapScale metres : Fixed} (scale_pos : zero < mapScale)
    (ahead : zero ≤ metres) (few : yardsOnMap mapScale metres < 2147483648) :
    metres.raw * 1048576 ≤ 1000000000000 * mapScale.raw := by
  by_contra far
  have scale_raw_pos := pos_iff.mp scale_pos
  have quotient_ge : 1000000000000 ≤ (metres / mapScale).raw := by
    by_contra small
    have above := lt_of_raw_div_lt ahead scale_pos (by simp only [limit]; omega)
    have product_le : (2 * (metres / mapScale).raw + 1) * mapScale.raw ≤
        1999999999999 * mapScale.raw :=
      Int.mul_le_mul_of_nonneg_right (by omega) scale_raw_pos.le
    omega
  rw [yardsOnMap, yardsOfMetres_of_nonneg (Fixed.div_nonneg ahead scale_pos)] at few
  simp only [limit] at few
  omega

/-- The yards of two distances, each rounded, are those of the sum but for one. -/
theorem yards_of_parts {mapScale first second : Fixed} (scale_pos : zero < mapScale)
    (scale_le : mapScale.raw ≤ 4503599627370) (first_ahead : zero ≤ first)
    (second_ahead : zero ≤ second)
    (few : yardsOnMap mapScale (first + second) < 2147483648) :
    |yardsOnMap mapScale first + yardsOnMap mapScale second -
      yardsOnMap mapScale (first + second)| ≤ 1 := by
  have scale_raw_pos := pos_iff.mp scale_pos
  have first_nonneg := nonneg_iff.mp first_ahead
  have second_nonneg := nonneg_iff.mp second_ahead
  have sum_ahead := add_nonneg first_ahead second_ahead
  have sum_near := near_of_few_yards scale_pos sum_ahead few
  have sum_eq : (first + second).raw = first.raw + second.raw := by
    rw [raw_add] at sum_near ⊢
    simp only [limit] at sum_near ⊢
    omega
  have first_yards := yardsOnMap_near scale_pos first_ahead (by omega)
  have second_yards := yardsOnMap_near scale_pos second_ahead (by omega)
  have sum_yards := yardsOnMap_near scale_pos sum_ahead sum_near
  rw [sum_eq] at sum_yards
  -- Three roundings of little more than half a yard are less than two yards.
  rw [abs_le]
  constructor
  · by_contra short
    have product_le := Int.mul_le_mul_of_nonneg_left (by omega :
      yardsOnMap mapScale first + yardsOnMap mapScale second ≤
        yardsOnMap mapScale (first + second) - 2) scale_raw_pos.le
    linarith
  · by_contra long
    have le_product := Int.mul_le_mul_of_nonneg_left (by omega :
      yardsOnMap mapScale (first + second) + 2 ≤
        yardsOnMap mapScale first + yardsOnMap mapScale second) scale_raw_pos.le
    linarith

end Units

namespace Profile

variable {profile : Profile} {weight : WeightSummary} {mapScale : Fixed} {target : Int32}

/-- Two cruises and the one that they make up end with the same velocity.  The first covers one
distance and the second another, and the whole covers their sum. -/
theorem move_cruise_parts (scale_nonneg : zero ≤ mapScale) (weight_pos : 0 < weight.weight)
    {first rest : Int64} (first_pos : 0 < first.toInt) (full : first.toInt % 32 = 0)
    (rest_pos : 0 < rest.toInt) (short : first.toInt + rest.toInt ≤ 65536) {state : MotionState}
    (slow : state.velocity ≤ profile.wantedVelocity (.cruise first mapScale target)) :
    ∃ near far, zero ≤ near.place ∧ zero ≤ far.place ∧
      profile.move (.cruise first mapScale target) weight state =
        settleState state mapScale near ∧
      profile.move (.cruise rest mapScale target) weight (settleState state mapScale near) =
        settleState (settleState state mapScale near) mapScale far ∧
      profile.move (.cruise (first + rest) mapScale target) weight state =
        settleState state mapScale ⟨near.place + far.place, far.velocity⟩ := by
  have sum_eq : (first + rest).toInt = first.toInt + rest.toInt := by
    rw [Int64.toInt_add]
    exact Int.bmod_eq_of_le (by omega) (by omega)
  have ticks_eq : (first + rest).toInt.toNat = first.toInt.toNat + rest.toInt.toNat := by omega
  have full_nat : first.toInt.toNat % sliceTicks = 0 := by
    rw [sliceTicks]
    omega
  have sound : (profile.drive weight (.cruise first mapScale target)).Sound :=
    drive_sound scale_nonneg weight_pos
  have free := profile.drive_free weight first mapScale target
  obtain ⟨near, near_eq⟩ : ∃ near, (profile.drive weight (.cruise first mapScale target)).run
    ⟨zero, state.velocity⟩ (slices first.toInt.toNat) = near := ⟨_, rfl⟩
  obtain ⟨near_ahead, near_nonneg, near_le⟩ := near_eq ▸ sound.run_bounds ⟨zero, state.velocity⟩
    state.velocity_nonneg slow le_rfl (slices first.toInt.toNat)
  obtain ⟨far, far_eq⟩ : ∃ far, (profile.drive weight (.cruise first mapScale target)).run
    ⟨zero, near.velocity⟩ (slices rest.toInt.toNat) = far := ⟨_, rfl⟩
  have far_ahead := (far_eq ▸ sound.run_bounds ⟨zero, near.velocity⟩ near_nonneg near_le le_rfl
    (slices rest.toInt.toNat)).1
  refine ⟨near, far, near_ahead, far_ahead, ?_, ?_, ?_⟩
  · rw [move_cruise first_pos (by omega) weight_pos first, near_eq]
  · rw [move_cruise rest_pos (by omega) weight_pos first,
      velocity_settleState state mapScale near_nonneg, far_eq]
  · rw [move_cruise (by omega) (by omega) weight_pos first, ticks_eq, slices_add full_nat,
      Drive.run_append, near_eq]
    have onward := free.run_from sound near_ahead near_nonneg near_le (slices rest.toInt.toNat)
    rw [far_eq] at onward
    exact congrArg (settleState state mapScale) onward

end Profile

/-- A word that goes on, and is not less, has not wrapped round. -/
theorem toInt_add_of_onward {start : Int64} {count : Int} (nonneg : 0 ≤ count)
    (few : count ≤ 22000000000) (onward : start ≤ start + .ofInt count) :
    (start + .ofInt count).toInt = start.toInt + count := by
  have low := start.le_toInt
  have high := start.toInt_lt
  rw [Int64.le_iff_toInt_le, Int64.toInt_add, toInt_ofInt64 (by omega) (by omega),
    Int.bmod_def] at *
  omega

/-- Words that go on by as much but for one differ by one at most, and so do their numbers unless one
of them wraps round. -/
theorem words_near {start : Int64} {count other : Int} (nonneg : 0 ≤ count)
    (few : count ≤ 22000000000) (other_nonneg : 0 ≤ other) (other_few : other ≤ 22000000000)
    (near : |count - other| ≤ 1) :
    |(start + .ofInt count - (start + .ofInt other)).toInt| ≤ 1 ∧
      (start ≤ start + .ofInt other → start ≤ start + .ofInt count →
        |(start + .ofInt count).toInt - (start + .ofInt other).toInt| ≤ 1) := by
  constructor
  · have between : start + .ofInt count - (start + .ofInt other) = .ofInt (count - other) := by
      rw [Int64.ofInt_sub]
      grind
    rw [between, toInt_ofInt64 (by omega) (by omega)]
    exact near
  · intro other_onward onward
    rw [toInt_add_of_onward nonneg few onward, toInt_add_of_onward other_nonneg other_few other_onward,
      Int.add_sub_add_left]
    exact near

namespace Memo

variable {σ : Type}

/-- Calls one after another move the state by the profile. -/
theorem moves_eq [Source σ] (weight : WeightSummary) (memo : Memo σ)
    (agrees : memo.cache.Agrees memo.source) (requests : List MoveRequest) (state : MotionState) :
    (memo.moves weight state requests).1 =
      requests.foldl (fun state request => (Profile.ofSource memo.source).move request weight state)
        state := by
  induction requests generalizing memo state with
  | nil => rfl
  | cons request requests ih =>
    have moved_eq : (memo.ask (.move request weight state)).1 =
        (Profile.ofSource memo.source).move request weight state := ask_answer agrees _
    rw [moves, List.foldl_cons, ← moved_eq]
    exact ih (memo.ask (.move request weight state)).2 (ask_agrees agrees _) _

/-- A cruise that is cut at the end of a slice ends with the same speed and residue as in one call.
Unless a call covers billions of yards, the yards differ by one at most: as words, and as numbers too
where neither word wraps round. -/
theorem cruise_in_parts [Source σ] (memo : Memo σ) (agrees : memo.cache.Agrees memo.source)
    {world : World} (validated : world.validate = .ok ()) (weight : WeightSummary)
    (weight_pos : 0 < weight.weight) (target : Int32) (first rest : Int64) (first_pos : 0 < first)
    (full : first.toInt % sliceTicks = 0) (rest_pos : 0 < rest)
    (short : first.toInt + rest.toInt ≤ mostTicks) (state : MotionState)
    (slow : state.velocity ≤ min (Units.velocityOfSpeed target)
      (Units.velocityOfKmh (memo.ask .speedLimit).1)) :
    let cruise := fun ticks => MoveRequest.cruise ticks world.mapScale target
    let whole := (memo.ask (.move (cruise (first + rest)) weight state)).1
    let parts := (memo.moves weight state [cruise first, cruise rest]).1
    parts.speed = whole.speed ∧ parts.residue = whole.residue ∧
      ((whole.yards - state.yards).toInt < 2147483648 →
        |(parts.yards - whole.yards).toInt| ≤ 1 ∧
          (state.yards ≤ whole.yards → state.yards ≤ parts.yards →
            |parts.yards.toInt - whole.yards.toInt| ≤ 1)) := by
  intro cruise whole parts
  let profile := Profile.ofSource memo.source
  have scale_pos := World.mapScale_pos validated
  have scale_le : world.mapScale.raw ≤ 4503599627370 := by
    have tile_lt := world.tileMetres.toNat_lt
    rw [world.raw_mapScale]
    omega
  have slow_wanted : state.velocity ≤ profile.wantedVelocity (cruise first) := by
    rw [ask_answer agrees] at slow
    refine slow.trans (min_le_min (Units.velocityOfSpeed_mono ?_) (Units.velocityOfKmh_mono ?_))
    · rw [toInt_max32]
      exact le_max_left _ _
    · rw [toInt_max32]
      exact le_max_left _ _
  obtain ⟨near, far, near_ahead, far_ahead, first_eq, rest_eq, whole_eq⟩ :=
    Profile.move_cruise_parts scale_pos.le weight_pos
      (Int64.lt_iff_toInt_lt.mp first_pos) full (Int64.lt_iff_toInt_lt.mp rest_pos) short slow_wanted
  have whole_settled : whole =
      Profile.settleState state world.mapScale ⟨near.place + far.place, far.velocity⟩ :=
    (ask_answer agrees _).trans whole_eq
  have parts_settled : parts =
      Profile.settleState (Profile.settleState state world.mapScale near) world.mapScale far := by
    have parts_eq : parts =
        profile.move (cruise rest) weight (profile.move (cruise first) weight state) :=
      moves_eq weight memo agrees _ state
    rw [parts_eq, first_eq, rest_eq]
  refine ⟨?_, ?_, fun few => ?_⟩
  · rw [parts_settled, whole_settled]
    rfl
  · rw [parts_settled, whole_settled]
    rfl
  have sum_ahead := add_nonneg near_ahead far_ahead
  have near_bounds := Units.yardsOnMap_bounds scale_pos near_ahead
  have far_bounds := Units.yardsOnMap_bounds scale_pos far_ahead
  have whole_bounds := Units.yardsOnMap_bounds scale_pos sum_ahead
  rw [whole_settled, Profile.covered_settleState state scale_pos sum_ahead] at few
  have rounding := Units.yards_of_parts scale_pos scale_le near_ahead far_ahead few
  have whole_yards : whole.yards =
      state.yards + .ofInt (Units.yardsOnMap world.mapScale (near.place + far.place)) := by
    rw [whole_settled, Profile.yards_settleState_eq]
  have parts_yards : parts.yards = state.yards + .ofInt (Units.yardsOnMap world.mapScale near.place +
      Units.yardsOnMap world.mapScale far.place) := by
    rw [parts_settled, Profile.yards_settleState_eq, Profile.yards_settleState_eq, Int64.ofInt_add,
      Int64.add_assoc]
  rw [whole_yards, parts_yards]
  exact words_near (by omega) (by omega) whole_bounds.1 (by omega) rounding

/-- A railcar that speeds up for two slices. -/
theorem railcar_cut_in_two :
    let memo : Memo Consist := ⟨⟨[fastRailcar], {}⟩, .empty⟩
    let world : World := {}
    let weight : WeightSummary := .single 20000 0
    let whole := (memo.ask (.move (.cruise 64 world.mapScale 1280) weight (.atSpeed 380))).1
    let parts := (memo.moves weight (.atSpeed 380)
      [.cruise 32 world.mapScale 1280, .cruise 32 world.mapScale 1280]).1
    parts.speed = whole.speed ∧ parts.residue = whole.residue ∧
      |parts.yards.toInt - whole.yards.toInt| ≤ 1 := by
  intro memo world weight whole parts
  obtain ⟨speed_eq, residue_eq, yards_near⟩ := memo.cruise_in_parts (Cache.agrees_empty _)
    (by decide : world.validate = .ok ()) weight (by decide) 1280 32 32
    (by decide) (by decide) (by decide) (by decide) (.atSpeed 380) (by decide +kernel)
  exact ⟨speed_eq, residue_eq,
    (yards_near (by decide +kernel)).2 (by decide +kernel) (by decide +kernel)⟩

/-- The yard that two roundings add is the first that the word of yards cannot hold, so that it wraps
round. -/
theorem railcar_wraps_round :
    let memo : Memo Consist := ⟨⟨[fastRailcar], {}⟩, .empty⟩
    let world : World := {}
    let weight : WeightSummary := .single 20000 0
    let state : MotionState := ⟨380, 9223372036854748681, zero⟩
    let whole := (memo.ask (.move (.cruise 64 world.mapScale 1280) weight state)).1
    let parts := (memo.moves weight state
      [.cruise 32 world.mapScale 1280, .cruise 32 world.mapScale 1280]).1
    fastRailcar.validate = .ok () ∧ world.validate = .ok () ∧ 0 < weight.weight ∧
      state.velocity ≤ min (Units.velocityOfSpeed 1280)
        (Units.velocityOfKmh (memo.ask .speedLimit).1) ∧
      (whole.yards - state.yards).toInt = 27126 ∧ whole.yards.toInt = 9223372036854775807 ∧
      parts.yards.toInt = -9223372036854775808 := by
  intro memo world weight state whole parts
  refine ⟨?_, ?_, ?_, ?_, ?_, ?_, ?_⟩
  · decide
  · decide
  · decide
  · decide +kernel
  · decide +kernel
  · decide +kernel
  · decide +kernel

end Memo

end Haulage
