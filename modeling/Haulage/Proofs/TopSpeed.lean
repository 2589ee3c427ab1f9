import Haulage.Proofs.Coherence
import Haulage.Proofs.Curves

/-!
# The search for the top speed

The search tries few of the speeds up to the limit: strides that grow with the limit, then the last
stride one km/h at a time.  Traction sustains every speed below one that it sustains, so the search
finds what trying all of them would find.
-/

namespace Haulage

open Fixed

theorem toInt_add32 {a b : Int32} (low : -2147483648 ≤ a.toInt + b.toInt)
    (high : a.toInt + b.toInt < 2147483648) : (a + b).toInt = a.toInt + b.toInt := by
  rw [Int32.toInt_add]
  exact Int.bmod_eq_of_le (by simpa using low) (by simpa using high)

theorem toInt_add_one32 (kmh : Int32) (small : kmh.toInt < 300000) :
    (kmh + 1).toInt = kmh.toInt + 1 :=
  have low := kmh.le_toInt
  toInt_add32 (by simp; omega) (by simp; omega)

theorem toInt_sub_one32 {a : Int32} (low : -2147483648 < a.toInt) :
    (a - 1).toInt = a.toInt - 1 := by
  have high := a.toInt_lt
  rw [Int32.toInt_sub]
  exact Int.bmod_eq_of_le (by simp; omega) (by simp; omega)

namespace Profile

section Search

variable (holds : Int32 → Bool) {cap stride : Int32}

/-- The coarse search reaches a cap that holds, or it stops between a speed that holds and a trial
above it that fails. -/
theorem coarseSearch_spec (cap_le : cap ≤ Units.unlimitedKmh) (stride_pos : 0 < stride.toInt)
    (stride_le : stride.toInt ≤ 300000) (fuel : Nat) (sustained : Int32)
    (nonneg : 0 ≤ sustained.toInt) (below : sustained.toInt < cap.toInt)
    (room : cap.toInt - sustained.toInt ≤ fuel) (held : holds sustained = true) :
    coarseSearch holds cap stride fuel sustained = .reachedCap ∧ holds cap = true ∨
      ∃ last failed, coarseSearch holds cap stride fuel sustained = .failed last failed ∧
        0 ≤ last.toInt ∧ last.toInt < failed.toInt ∧ failed.toInt ≤ cap.toInt ∧
        holds last = true ∧ holds failed = false := by
  have cap_small : cap.toInt ≤ 300000 := Int32.le_iff_toInt_le.mp cap_le
  induction fuel generalizing sustained with
  | zero => omega
  | succ fuel ih =>
    have trial_eq : (min (sustained + stride) cap).toInt =
        min (sustained.toInt + stride.toInt) cap.toInt := by
      rw [toInt_min32, toInt_add32 (by omega) (by omega)]
    simp only [coarseSearch]
    split
    · next trial_holds =>
      split
      · next capped =>
        rw [Int32.le_iff_toInt_le] at capped
        have trial_cap : min (sustained + stride) cap = cap := Int32.toInt_inj.mp (by omega)
        rw [trial_cap] at trial_holds
        exact .inl ⟨rfl, trial_holds⟩
      · next not_capped =>
        rw [Int32.le_iff_toInt_le] at not_capped
        exact ih _ (by omega) (by omega) (by omega) trial_holds
    · next trial_fails =>
      exact .inr ⟨sustained, _, rfl, nonneg, by omega, by omega, held,
        Bool.eq_false_iff.mpr trial_fails⟩

/-- The fine search stops one above a speed that holds, at one that fails or at its end. -/
theorem fineSearch_spec (count : Nat) (kmh : Int32) (pos : 0 < kmh.toInt)
    (small : kmh.toInt + count ≤ 300000) (held : holds (kmh - 1) = true) :
    ∃ stop : Int32, fineSearch holds count kmh = stop - 1 ∧ 0 < stop.toInt ∧
      holds (stop - 1) = true ∧
      (holds stop = false ∧ stop.toInt < kmh.toInt + count ∨ stop.toInt = kmh.toInt + count) := by
  induction count generalizing kmh with
  | zero => exact ⟨kmh, rfl, pos, held, .inr (by simp)⟩
  | succ count ih =>
    have next_eq := toInt_add_one32 kmh (by omega)
    rw [fineSearch]
    split
    · next kmh_holds =>
      obtain ⟨stop, found, stop_pos, stop_held, outcome⟩ :=
        ih (kmh + 1) (by omega) (by omega) (by rw [Int32.add_sub_cancel]; exact kmh_holds)
      exact ⟨stop, found, stop_pos, stop_held, outcome.imp (fun ⟨fails, lt⟩ => ⟨fails, by omega⟩)
        (by omega)⟩
    · next fails => exact ⟨kmh, rfl, pos, held, .inl ⟨Bool.eq_false_iff.mpr fails, by omega⟩⟩

theorem toInt_coarseStride (cap_pos : 0 < cap.toInt) :
    (coarseStride cap).toInt = max (cap.toInt / 64) 1 := by
  have quotient_eq : (cap / coarseSteps).toInt = cap.toInt.tdiv 64 := by
    rw [Int32.toInt_div_of_ne_right _ _ (by decide)]
    rfl
  rw [coarseStride, toInt_max32, quotient_eq, Int.tdiv_eq_ediv_of_nonneg cap_pos.le]
  rfl

theorem coarseStride_bounds (cap_pos : 0 < cap.toInt) (cap_le : cap ≤ Units.unlimitedKmh) :
    0 < (coarseStride cap).toInt ∧ (coarseStride cap).toInt ≤ 300000 := by
  have cap_small : cap.toInt ≤ 300000 := Int32.le_iff_toInt_le.mp cap_le
  rw [toInt_coarseStride cap_pos]
  omega

/-- The search answers with a cap that holds, or between a speed that holds and the next, which
fails. -/
theorem searchTopSpeed_spec (cap_pos : 0 < cap.toInt) (cap_le : cap ≤ Units.unlimitedKmh)
    (held : holds 0 = true) :
    searchTopSpeed holds cap = cap ∧ holds cap = true ∨
      ∃ stop : Int32, searchTopSpeed holds cap = stop - 1 ∧ 0 < stop.toInt ∧
        stop.toInt ≤ cap.toInt ∧ holds (stop - 1) = true ∧ holds stop = false := by
  have cap_small : cap.toInt ≤ 300000 := Int32.le_iff_toInt_le.mp cap_le
  have standing : (0 : Int32).toInt = 0 := rfl
  have stride_bounds := coarseStride_bounds cap_pos cap_le
  unfold searchTopSpeed
  rcases coarseSearch_spec holds cap_le stride_bounds.1 stride_bounds.2 4294967296 0 (by omega)
      (by omega) (by omega) held with ⟨reached, cap_holds⟩ |
    ⟨last, failed, outcome, last_nonneg, last_lt, failed_le, last_holds, fails⟩
  · rw [reached]
    exact .inl ⟨rfl, cap_holds⟩
  · rw [outcome]
    simp only
    split
    · have last_eq : failed - 1 = last :=
        Int32.toInt_inj.mp (by rw [toInt_sub_one32 (by omega)]; omega)
      exact .inr ⟨failed, rfl, by omega, failed_le, by rw [last_eq]; exact last_holds, fails⟩
    · have next_eq := toInt_add_one32 last (by omega)
      obtain ⟨stop, found, stop_pos, stop_held, ⟨stop_fails, stop_lt⟩ | stop_eq⟩ :=
        fineSearch_spec holds (failed.toInt - last.toInt - 1).toNat (last + 1) (by omega)
          (by omega) (by rw [Int32.add_sub_cancel]; exact last_holds)
      · exact .inr ⟨stop, found, stop_pos, by omega, stop_held, stop_fails⟩
      · have stop_failed : stop = failed := Int32.toInt_inj.mp (by omega)
        exact .inr ⟨stop, found, stop_pos, by omega, stop_held, by rw [stop_failed]; exact fails⟩

end Search

/-- The highest of the speeds from zero up to a cap that hold; all below it hold too. -/
structure IsTopSpeed (holds : Int32 → Bool) (cap top : Int32) : Prop where
  /-- It is not negative. -/
  nonneg : 0 ≤ top
  /-- It is not above the cap. -/
  le_cap : top ≤ cap
  /-- It and every speed below it hold. -/
  holds_le : ∀ kmh, 0 ≤ kmh → kmh ≤ top → holds kmh = true
  /-- No speed above it holds. -/
  fails_above : ∀ kmh, top < kmh → kmh ≤ cap → holds kmh = false

theorem searchTopSpeed_isTopSpeed {holds : Int32 → Bool} {cap : Int32} (cap_pos : 0 < cap.toInt)
    (cap_le : cap ≤ Units.unlimitedKmh)
    (antitone : ∀ slow fast : Int32, 0 ≤ slow.toInt → slow.toInt ≤ fast.toInt →
      holds fast = true → holds slow = true)
    (held : holds 0 = true) : IsTopSpeed holds cap (searchTopSpeed holds cap) := by
  have standing : (0 : Int32).toInt = 0 := rfl
  rcases searchTopSpeed_spec holds cap_pos cap_le held with
    ⟨reached, cap_holds⟩ | ⟨stop, found, stop_pos, stop_le, below_holds, stop_fails⟩
  · rw [reached]
    exact
      { nonneg := Int32.le_iff_toInt_le.mpr (by omega)
        le_cap := Int32.le_refl cap
        holds_le := fun kmh nonneg le =>
          antitone kmh cap (Int32.le_iff_toInt_le.mp nonneg) (Int32.le_iff_toInt_le.mp le) cap_holds
        fails_above := fun kmh above le => absurd le (Int32.not_le.mpr above) }
  · have below_eq := toInt_sub_one32 (a := stop) (by omega)
    rw [found]
    refine
      { nonneg := Int32.le_iff_toInt_le.mpr (by omega)
        le_cap := Int32.le_iff_toInt_le.mpr (by omega)
        holds_le := fun kmh nonneg le =>
          antitone kmh _ (Int32.le_iff_toInt_le.mp nonneg) (Int32.le_iff_toInt_le.mp le) below_holds
        fails_above := fun kmh above le => ?_ }
    rw [Int32.lt_iff_toInt_lt] at above
    by_contra holds_kmh
    have stop_holds := antitone stop kmh (by omega) (by omega) (Bool.not_eq_false _ ▸ holds_kmh)
    rw [stop_fails] at stop_holds
    exact absurd stop_holds (by decide)

variable {profile : Profile} {weight : WeightSummary} {resistance : Fixed}

/-- Without vehicles there is nothing to hold back. -/
theorem maxSpeed_of_isEmpty (moves : 0 < profile.speedLimit)
    (unmanned : profile.vehicle.isEmpty = true) :
    profile.maxSpeed weight = profile.speedLimit := by
  rw [maxSpeed]
  simp only
  rw [if_neg (Int32.not_le.mpr moves), if_pos unmanned]

theorem maxSpeed_of_startingForce_lt (moves : 0 < profile.speedLimit)
    (manned : profile.vehicle.isEmpty = false)
    (heavy : profile.startingForce < profile.resistance weight) : profile.maxSpeed weight = 0 := by
  rw [maxSpeed]
  simp only
  rw [if_neg (Int32.not_le.mpr moves), manned, if_neg Bool.false_ne_true, if_pos heavy]

theorem maxSpeed_eq_search (moves : 0 < profile.speedLimit)
    (manned : profile.vehicle.isEmpty = false)
    (starts : profile.resistance weight ≤ profile.startingForce) :
    profile.maxSpeed weight =
      searchTopSpeed (profile.sustainsKmh (profile.resistance weight)) profile.speedLimit := by
  rw [maxSpeed]
  simp only
  rw [if_neg (Int32.not_le.mpr moves), manned, if_neg Bool.false_ne_true,
    if_neg (not_lt.mpr starts)]

namespace Regular

theorem speedLimit_le (regular : profile.Regular) : profile.speedLimit ≤ Units.unlimitedKmh := by
  have rated_le := Int32.le_iff_toInt_le.mp regular.maxSpeed_le
  rw [Int32.le_iff_toInt_le, speedLimit, toInt_min32]
  omega

theorem sustainsKmh_of_le (regular : profile.Regular) {slow fast : Int32}
    (nonneg : 0 ≤ slow.toInt) (le : slow.toInt ≤ fast.toInt)
    (sustained : profile.sustainsKmh resistance fast = true) :
    profile.sustainsKmh resistance slow = true :=
  regular.sustains_of_le (Units.velocityOfKmh_nonneg nonneg) (Units.velocityOfKmh_mono le) sustained

theorem resistance_ge (profile : Profile) (weight : WeightSummary) :
    -limit ≤ (profile.resistance weight).raw := by
  rw [Profile.resistance, raw_mul]
  exact le_max_left _ _

/-- A convoy that starts sustains a standstill, where there is no drag. -/
theorem sustainsKmh_zero
    (starts : profile.resistance weight ≤ profile.startingForce) :
    profile.sustainsKmh (profile.resistance weight) 0 = true := by
  have standing : Units.velocityOfKmh 0 = zero := by decide
  rw [sustainsKmh, sustains, standing, traction_zero, drag_zero,
    zero_add_of_ge (resistance_ge profile weight), decide_eq_true_eq]
  exact starts

/-- A convoy with vehicles that starts tops out at the highest speed that traction sustains. -/
theorem maxSpeed_isTopSpeed (regular : profile.Regular) (cap_pos : 0 < profile.speedLimit)
    (manned : profile.vehicle.isEmpty = false)
    (starts : profile.resistance weight ≤ profile.startingForce) :
    IsTopSpeed (profile.sustainsKmh (profile.resistance weight)) profile.speedLimit
      (profile.maxSpeed weight) := by
  rw [maxSpeed_eq_search cap_pos manned starts]
  exact searchTopSpeed_isTopSpeed (Int32.lt_iff_toInt_lt.mp cap_pos) regular.speedLimit_le
    (fun _ _ => regular.sustainsKmh_of_le) (sustainsKmh_zero starts)

end Regular

end Profile

namespace VehicleSummary

theorem count_foldl (vehicles : List Vehicle) (summary : VehicleSummary) :
    (vehicles.foldl add summary).count = summary.count + UInt32.ofNat vehicles.length := by
  induction vehicles generalizing summary with
  | nil => simp
  | cons vehicle vehicles ih =>
    rw [List.foldl_cons, ih, List.length_cons, Nat.add_comm, UInt32.ofNat_add]
    exact UInt32.add_assoc summary.count 1 _

/-- The vehicles are counted in 32 bits. -/
theorem isEmpty_ofList (vehicles : List Vehicle) :
    (ofList vehicles).isEmpty = true ↔ vehicles.length % 4294967296 = 0 := by
  have count_eq : (ofList vehicles).count = UInt32.ofNat vehicles.length := by
    rw [ofList, withTiles, count_foldl, UInt32.zero_add]
  rw [isEmpty, count_eq, decide_eq_true_eq, ← UInt32.toNat_inj, UInt32.toNat_ofNat']
  rfl

end VehicleSummary

namespace Memo

variable {σ : Type}

/-- The search answers as trying every whole km/h up to the speed limit would.  A convoy that may
not move has no top speed, one without vehicles that of the limit, and one that cannot start none;
any other tops out at the highest speed at which traction covers drag and resistance, and traction
covers them at every lower speed too.  Vehicles are counted in 32 bits. -/
theorem maxSpeed_as_linear_search [Source σ] [VehicleSource σ] (memo : Memo σ)
    (agrees : memo.cache.Agrees memo.source) (weight : WeightSummary) :
    let top := (memo.ask (.maxSpeed weight)).1
    let cap := (memo.ask .speedLimit).1
    let vehicle := (memo.ask .vehicle).1
    let drag := (memo.ask .adverse).1.drag
    let resistance := (memo.ask (.resistance weight)).1
    let startingForce := (memo.ask .startingForce).1
    let covered := fun kmh : Int32 =>
      let velocity := Units.velocityOfKmh kmh
      decide (drag * velocity * velocity + resistance ≤ (memo.ask (.traction velocity)).1)
    (vehicle.isEmpty = true ↔ (VehicleSource.vehicles memo.source).length % 4294967296 = 0) ∧
      (cap ≤ 0 → top = 0) ∧
      (0 < cap → vehicle.isEmpty = true → top = cap) ∧
      (0 < cap → vehicle.isEmpty = false → startingForce < resistance → top = 0) ∧
      (0 < cap → vehicle.isEmpty = false → resistance ≤ startingForce →
        Profile.IsTopSpeed covered cap top) := by
  have regular := VehicleSource.regular memo.source
  simp only [ask_answer agrees]
  refine ⟨?_, fun stuck => if_pos stuck, Profile.maxSpeed_of_isEmpty,
    Profile.maxSpeed_of_startingForce_lt, regular.maxSpeed_isTopSpeed⟩
  change (Source.vehicleSummary memo.source).isEmpty = true ↔ _
  rw [VehicleSource.vehicleSummary_eq]
  exact VehicleSummary.isEmpty_ofList _

/-- An express engine with a wagon holds 161 km/h and no whole speed above. -/
theorem express_tops_out_at_161 :
    let memo : Memo Consist :=
      ⟨⟨[.engine "Express" .track 80 200 1500, .wagon "Mail" .track 40 200 30 (.uniform 1000)], {}⟩,
        .empty⟩
    let weight : WeightSummary := .single 150000 0
    let covered := fun kmh : Int32 =>
      let velocity := Units.velocityOfKmh kmh
      decide ((memo.ask .adverse).1.drag * velocity * velocity +
        (memo.ask (.resistance weight)).1 ≤ (memo.ask (.traction velocity)).1)
    Profile.IsTopSpeed covered 200 161 := by
  intro memo weight covered
  have speedLimit_eq : (memo.ask .speedLimit).1 = 200 := by decide +kernel
  have maxSpeed_eq : (memo.ask (.maxSpeed weight)).1 = 161 := by decide +kernel
  have manned : (memo.ask .vehicle).1.isEmpty = false := by decide +kernel
  have starts : (memo.ask (.resistance weight)).1 ≤ (memo.ask .startingForce).1 := by
    decide +kernel
  have search := (memo.maxSpeed_as_linear_search (Cache.agrees_empty _) weight).2.2.2.2
  simp only [speedLimit_eq, maxSpeed_eq] at search
  exact search (by decide) manned starts

end Memo

end Haulage
