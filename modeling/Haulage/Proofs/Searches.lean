import Haulage.Proofs.BrakingOrder
import Haulage.Proofs.Starting

/-!
# Searches for a velocity

Both searches of a slice, for the greatest velocity that traction sustains and for the greatest one
that leaves room to brake, halve an interval whose lower end passes and whose upper end fails.  What
passes either test passes it at every lower velocity.  So nothing passes that is above what is found
by more than the last part of the interval and two counts.
-/

namespace Haulage

open Fixed

variable {passes : Fixed → Bool} {low high : Fixed}

theorem Fixed.raw_midpoint_of_le (nonneg : zero ≤ low) (le : low ≤ high)
    (small : high.raw ≤ 4611686018427387903) :
    ((low + high).divInt 2).raw = (low.raw + high.raw + 1) / 2 := by
  rw [nonneg_iff] at nonneg
  rw [le_def] at le
  rw [raw_midpoint, raw_add]
  simp only [limit]
  omega

/-- Something that fails is above what is found by one part of the interval at most, rounded up. -/
theorem bisect_fails_near (count : Nat) (nonneg : zero ≤ low) (le : low ≤ high)
    (small : high.raw ≤ 4611686018427387903) (fails_high : passes high = false) :
    ∃ stop, passes stop = false ∧ bisect passes count low high ≤ stop ∧ stop ≤ high ∧
      parts count * (stop.raw - (bisect passes count low high).raw) ≤
        high.raw - low.raw + (parts count - 1) := by
  induction count generalizing low high with
  | zero => exact ⟨high, fails_high, le, le_rfl, by simp [bisect, parts]⟩
  | succ count ih =>
    have middle_eq := raw_midpoint_of_le nonneg le small
    have low_le := le_midpoint nonneg le small
    have le_high : (low + high).divInt 2 ≤ high := midpoint_le (nonneg.trans le) le le_rfl
    rw [bisect, parts]
    by_cases passed : passes ((low + high).divInt 2) = true
    · rw [if_pos passed]
      obtain ⟨stop, fails, found_le, stop_le, near⟩ :=
        ih (nonneg.trans low_le) le_high small fails_high
      refine ⟨stop, fails, found_le, stop_le, ?_⟩
      rw [Int.mul_assoc]
      omega
    · rw [if_neg passed]
      obtain ⟨stop, fails, found_le, stop_le, near⟩ :=
        ih nonneg low_le ((le_def.mp le_high).trans small) (Bool.eq_false_of_not_eq_true passed)
      refine ⟨stop, fails, found_le, stop_le.trans le_high, ?_⟩
      rw [Int.mul_assoc]
      omega

/-- What passes a test passes it at every lower velocity. -/
def PassesBelow (passes : Fixed → Bool) : Prop :=
  ∀ slow fast, zero ≤ slow → slow ≤ fast → passes fast = true → passes slow = true

theorem PassesBelow.fails_above {slow fast : Fixed} (passes_below : PassesBelow passes)
    (nonneg : zero ≤ slow) (le : slow ≤ fast) (fails : passes slow = false) :
    passes fast = false := by
  by_contra passes_fast
  have passes_slow := passes_below slow fast nonneg le (Bool.eq_true_of_not_eq_false passes_fast)
  exact absurd (fails.symm.trans passes_slow) Bool.false_ne_true

/-- What a search for the greatest velocity in `low … high` that passes a test promises. -/
structure Pinned (passes : Fixed → Bool) (low high found : Fixed) : Prop where
  /-- What is found is no less than the lower end, -/
  low_le : low ≤ found
  /-- and no more than the upper one. -/
  le_high : found ≤ high
  /-- It passes, if the lower end does. -/
  passes_found : passes low = true → passes found = true
  /-- Unless it is the upper end, nothing in the interval passes that is above it by more than two
  counts and a 4096th of the interval. -/
  fails_above : found = high ∨ ∀ next ≤ high,
    high.raw - low.raw < 4096 * (next.raw - found.raw - 2) → passes next = false

namespace Pinned

theorem high_of_passes (le : low ≤ high) (passes_high : passes high = true) :
    Pinned passes low high high where
  low_le := le
  le_high := le_rfl
  passes_found _ := passes_high
  fails_above := .inl rfl

theorem low_of_fails (passes_below : PassesBelow passes) (nonneg : zero ≤ low) (le : low ≤ high)
    (fails_low : passes low = false) : Pinned passes low high low where
  low_le := le_rfl
  le_high := le
  passes_found passes_low := passes_low
  fails_above := by
    refine .inr fun next _ above => passes_below.fails_above nonneg ?_ fails_low
    rw [le_def] at le ⊢
    omega

theorem of_bisect (passes_below : PassesBelow passes) (nonneg : zero ≤ low) (le : low ≤ high)
    (small : high.raw ≤ 4611686018427387903) (fails_high : passes high = false) :
    Pinned passes low high (bisect passes bisections low high) := by
  have le_found := le_bisect passes bisections nonneg le small
  obtain ⟨stop, fails, found_le, stop_le, near⟩ :=
    bisect_fails_near bisections nonneg le small fails_high
  have parts_eq : parts bisections = 4096 := rfl
  rw [parts_eq] at near
  refine ⟨le_found, found_le.trans stop_le, passes_bisect passes _ low high, .inr ?_⟩
  intro next _ above
  apply passes_below.fails_above ((nonneg.trans le_found).trans found_le) _ fails
  rw [le_def]
  omega

end Pinned

theorem Profile.Regular.sustains_below {profile : Profile} (regular : profile.Regular)
    (resistance : Fixed) : PassesBelow (profile.sustains resistance) :=
  fun _ _ nonneg le => regular.sustains_of_le nonneg le

namespace LimitAhead

variable {brake : Fixed → Fixed} {seconds : Fixed}

theorem metresBetween_mono {slow fast : Fixed} (start : Fixed) (seconds_nonneg : zero ≤ seconds)
    (le : slow ≤ fast) : metresBetween start slow seconds ≤ metresBetween start fast seconds :=
  mul_le_mul_right (divInt_le_divInt (by decide) (add_le_add le_rfl le)) seconds_nonneg

theorem le_fastestFit (limit : LimitAhead) (brake : Fixed → Fixed) (head : Head)
    (seconds : Fixed) (nonneg : zero ≤ low) (le : low ≤ high)
    (small : high.raw ≤ 4611686018427387903) :
    low ≤ limit.fastestFit brake head seconds low high := by
  unfold fastestFit
  simp only
  split
  · exact le_rfl
  · split
    · exact le
    · exact le_bisect _ _ nonneg le small

/-- A slower end leaves more room, where braking distances do not fall with the velocity. -/
theorem fits_below (limit : LimitAhead) (head : Head) (seconds_nonneg : zero ≤ seconds)
    (brake_mono : ∀ slow fast, slow ≤ fast → brake slow ≤ brake fast) :
    PassesBelow (limit.fits brake head seconds) := by
  intro slow fast _ le fast_fits
  unfold fits at fast_fits ⊢
  by_cases slow_below : max head.velocity slow ≤ limit.velocity
  · rw [if_pos slow_below]
  · have fast_above : ¬ max head.velocity fast ≤ limit.velocity :=
      fun fast_below => slow_below ((max_le_max le_rfl le).trans fast_below)
    have needed_le : brake (max slow limit.velocity) ≤ brake (max fast limit.velocity) :=
      brake_mono _ _ (max_le_max le le_rfl)
    have place_le := add_le_add (le_refl head.place)
      (metresBetween_mono head.velocity seconds_nonneg le)
    rw [if_neg fast_above] at fast_fits
    rw [if_neg slow_below]
    simp only [ne_eq, decide_not, Bool.and_eq_true, Bool.not_eq_true', decide_eq_false_iff_not,
      decide_eq_true_eq] at fast_fits ⊢
    refine ⟨fun endless => fast_fits.1 ?_, (add_le_add place_le needed_le).trans fast_fits.2⟩
    exact le_antisymm (le_greatest _) (endless ▸ needed_le)

theorem pinned_fastestFit (limit : LimitAhead) (head : Head)
    (passes_below : PassesBelow (limit.fits brake head seconds)) (nonneg : zero ≤ low)
    (le : low ≤ high) (small : high.raw ≤ 4611686018427387903) :
    Pinned (limit.fits brake head seconds) low high
      (limit.fastestFit brake head seconds low high) := by
  unfold fastestFit
  simp only
  by_cases passes_high : limit.fits brake head seconds high = true
  · by_cases narrow : high ≤ low
    · obtain rfl := le_antisymm le narrow
      simpa using Pinned.high_of_passes le passes_high
    · have passes_low := passes_below low high nonneg le passes_high
      simpa [narrow, passes_low, passes_high] using Pinned.high_of_passes le passes_high
  · rw [Bool.not_eq_true] at passes_high
    split
    · next stays =>
      have fails_low : limit.fits brake head seconds low = false := by
        rw [Bool.or_eq_true, decide_eq_true_eq, Bool.not_eq_true'] at stays
        rcases stays with narrow | fails
        · rwa [le_antisymm le narrow]
        · exact fails
      exact .low_of_fails passes_below nonneg le fails_low
    · rw [if_neg (by simp [passes_high])]
      exact .of_bisect passes_below nonneg le small passes_high

end LimitAhead

theorem Drive.pinned_settle (drive : Drive) (regular : drive.profile.Regular) (nonneg : zero ≤ low)
    (le : low ≤ high) (small : high.raw ≤ 4611686018427387903) :
    Pinned (drive.profile.sustains drive.resistance) low high (drive.settle low high) := by
  unfold settle
  simp only
  split
  · next passes_high => exact .high_of_passes le passes_high
  · next fails_high =>
    exact .of_bisect (regular.sustains_below drive.resistance) nonneg le small
      (Bool.eq_false_of_not_eq_true fails_high)

/-- Both searches of a slice keep their promise, whatever the limit ahead and wherever the head is,
over all intervals of speeds. -/
theorem searches_pinned {σ : Type} [Source σ] [VehicleSource σ] (source : σ)
    (weight : WeightSummary) (request : MoveRequest) (limit : LimitAhead) (head : Head)
    {seconds low high : Fixed} (seconds_nonneg : zero ≤ seconds) (low_nonneg : zero ≤ low)
    (le : low ≤ high) (within : high ≤ Units.velocityOfSpeed Int32.maxValue) :
    let profile := Profile.ofSource source
    let brake := profile.brakingDistance weight
    Pinned (profile.sustains (profile.resistance weight)) low high
        ((profile.drive weight request).settle low high) ∧
      Pinned (limit.fits brake head seconds) low high
        (limit.fastestFit brake head seconds low high) := by
  intro profile brake
  have fastest : Units.velocityOfSpeed Int32.maxValue ≤ ofRaw 4611686018427387903 := by decide
  have small : high.raw ≤ 4611686018427387903 := within.trans fastest
  have regular : profile.Regular := VehicleSource.regular source
  refine ⟨(profile.drive weight request).pinned_settle regular low_nonneg le small, ?_⟩
  apply limit.pinned_fastestFit head _ low_nonneg le small
  exact limit.fits_below head seconds_nonneg
    fun _ _ => Profile.brakingDistance_mono profile weight

/-- 1000 t behind 500 kW settle a little below 10 m/s, and 20 m before a limit of 10 m/s they slow
down from 11 m/s to 10.13 m/s in half a second. -/
theorem freight_searches_pinned :
    let source : Consist := ⟨[.engine "Freight" .track 80 120 500], {}⟩
    let profile := Profile.ofSource source
    let weight : WeightSummary := .single 1000000 0
    let brake := profile.brakingDistance weight
    let limit : LimitAhead := ⟨.ofInt 500, .ofInt 10, brake (.ofInt 10)⟩
    let head : Head := ⟨.ofInt 480, .ofInt 11⟩
    profile.sustains (profile.resistance weight) (.ofInt 5) = true ∧
      limit.fits brake head half (.ofInt 10) = true ∧
      Pinned (profile.sustains (profile.resistance weight)) (.ofInt 5) (.ofInt 33)
        (.ofRaw 10482688) ∧
      Pinned (limit.fits brake head half) (.ofInt 10) (.ofInt 11) (.ofRaw 10624768) := by
  intro source profile weight brake limit head
  have settle_eq :
      (profile.drive weight default).settle (.ofInt 5) (.ofInt 33) = .ofRaw 10482688 := by
    decide +kernel
  have fit_eq :
      limit.fastestFit brake head half (.ofInt 10) (.ofInt 11) = .ofRaw 10624768 := by
    decide +kernel
  have settled := (searches_pinned source weight default limit head (by decide : zero ≤ half)
    (by decide : zero ≤ .ofInt 5) (by decide : Fixed.ofInt 5 ≤ .ofInt 33) (by decide)).1
  have fitted := (searches_pinned source weight default limit head (by decide : zero ≤ half)
    (by decide : zero ≤ .ofInt 10) (by decide : Fixed.ofInt 10 ≤ .ofInt 11) (by decide)).2
  rw [settle_eq] at settled
  rw [fit_eq] at fitted
  exact ⟨by decide +kernel, by decide +kernel, settled, fitted⟩

end Haulage
