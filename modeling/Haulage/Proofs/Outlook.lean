import Haulage.Fleet.Outlook
import Haulage.Proofs.BrakingSteps
import Haulage.Proofs.Geometry
import Haulage.Proofs.Heeding

/-!
# Which limit is heeded

Of the limits ahead that are lower than the section under the head, a convoy heeds the first, or the
route end if that has to be braked for sooner.  Where falling limits are far enough apart, either
suits every lower limit further on.
-/

namespace Haulage

open Fixed

namespace PlannedLimit

theorem foldl_stays {best : PlannedLimit} {rest : List PlannedLimit}
    (later : ∀ next ∈ rest, best.brakeAt ≤ next.brakeAt) :
    rest.foldl (fun best next => if next.brakeAt < best.brakeAt then next else best) best =
      best := by
  induction rest with
  | nil => rfl
  | cons next rest ih =>
    have stays := later next List.mem_cons_self
    rw [List.foldl_cons, if_neg (by omega)]
    exact ih fun other other_mem => later other (List.mem_cons_of_mem _ other_mem)

/-- Between a first limit with later ones, and a last one, only these two matter. -/
theorem nearest_of_first {first last : PlannedLimit} {rest : List PlannedLimit}
    (later : ∀ next ∈ rest, first.brakeAt ≤ next.brakeAt) :
    nearest (first :: (rest ++ [last])) =
      some (if last.brakeAt < first.brakeAt then last else first) := by
  rw [nearest, List.foldl_append, foldl_stays later]
  rfl

end PlannedLimit

namespace Section

/-- The limit of a section in simulation units. -/
def speed (stretch : Section) : Int32 := Units.speedOfKmh stretch.maxSpeed

/-- The limit of a section in m/s. -/
def velocity (stretch : Section) : Fixed := Units.velocityOfSpeed stretch.speed

end Section

/-- Steps to a limit as a convoy takes them: one early if its head is past its position. -/
def entrySteps (steps : UInt32) (early : Bool) : UInt32 :=
  if early then .ofNat (steps.toNat - 1) else steps

theorem toNat_entrySteps (steps : UInt32) (early : Bool) :
    (entrySteps steps early).toNat = if early then steps.toNat - 1 else steps.toNat := by
  have := steps.toNat_lt
  unfold entrySteps
  cases early with
  | false => rfl
  | true =>
    simp only [if_true, UInt32.toNat_ofNat']
    omega

namespace PlannedLimit

open Route

variable {fastest : Int32} {early : Bool}

theorem heeded_append (front back : List LimitPoint) (fastest : Int32) (early : Bool) :
    heeded (front ++ back) fastest early =
      heeded front fastest early ++ heeded back fastest early :=
  List.filterMap_append

theorem heeded_cons_high {stretch : Section} (high : fastest ≤ stretch.speed) (steps : UInt32)
    (rest : List Section) :
    heeded (limitsFrom steps (stretch :: rest)) fastest early =
      heeded (limitsFrom (steps + stretch.length) rest) fastest early := by
  rw [limitsFrom, heeded, List.filterMap_cons_none]
  · rfl
  · exact if_pos high

theorem heeded_cons_lower {stretch : Section} (lower : stretch.speed < fastest)
    (passable : 0 < stretch.maxSpeed) (steps : UInt32) (rest : List Section) :
    heeded (limitsFrom steps (stretch :: rest)) fastest early =
      (stretch.speed, entrySteps steps early) ::
        heeded (limitsFrom (steps + stretch.length) rest) fastest early := by
  rw [limitsFrom, heeded, List.filterMap_cons_some]
  · rfl
  · refine (if_neg (Int32.not_le.mpr lower)).trans ?_
    cases early with
    | false => simp [entrySteps, Section.speed]
    | true => simp [entrySteps, Section.speed, passable]

theorem toNat_add_length {steps : UInt32} {stretch : Section} {rest : List Section}
    (short : steps.toNat + totalLength (stretch :: rest) < 4294967296) :
    (steps + stretch.length).toNat = steps.toNat + stretch.length.toNat := by
  simp only [totalLength] at short
  rw [UInt32.toNat_add]
  omega

/-- Every limit heeded of sections ahead is that of one of them, as far ahead as it begins. -/
theorem mem_heeded {steps : UInt32} {sections : List Section} {limit : Int32 × UInt32}
    (passable : ∀ stretch ∈ sections, 0 < stretch.maxSpeed)
    (short : steps.toNat + totalLength sections < 4294967296)
    (heeds : limit ∈ heeded (limitsFrom steps sections) fastest early) :
    ∃ front stretch back start, sections = front ++ stretch :: back ∧
      stretch.speed < fastest ∧ start.toNat = steps.toNat + totalLength front ∧
      limit = (stretch.speed, entrySteps start early) := by
  induction sections generalizing steps with
  | nil => contradiction
  | cons first rest ih =>
    have next_eq := toNat_add_length short
    have rest_passable : ∀ stretch ∈ rest, 0 < stretch.maxSpeed :=
      fun stretch stretch_mem => passable stretch (List.mem_cons_of_mem _ stretch_mem)
    have rest_short : (steps + first.length).toNat + totalLength rest < 4294967296 := by
      simp only [totalLength] at short
      omega
    have further : limit ∈ heeded (limitsFrom (steps + first.length) rest) fastest early →
        ∃ front stretch back start, first :: rest = front ++ stretch :: back ∧
          stretch.speed < fastest ∧ start.toNat = steps.toNat + totalLength front ∧
          limit = (stretch.speed, entrySteps start early) := by
      intro later
      obtain ⟨front, stretch, back, start, rfl, lower, start_eq, limit_eq⟩ :=
        ih rest_passable rest_short later
      refine ⟨first :: front, stretch, back, start, rfl, lower, ?_, limit_eq⟩
      simp only [totalLength]
      omega
    by_cases high : fastest ≤ first.speed
    · rw [heeded_cons_high high] at heeds
      exact further heeds
    · have lower := Int32.not_le.mp high
      rw [heeded_cons_lower lower (passable first List.mem_cons_self)] at heeds
      rcases List.mem_cons.mp heeds with here | later
      · exact ⟨[], first, rest, steps, rfl, lower, rfl, here⟩
      · exact further later

/-- The limits heeded begin with that of the first section that is lower. -/
theorem heeded_of_first_lower {steps : UInt32} {high rest : List Section} {lower : Section}
    (above : ∀ stretch ∈ high, fastest ≤ stretch.speed) (below : lower.speed < fastest)
    (passable : 0 < lower.maxSpeed)
    (short : steps.toNat + totalLength (high ++ lower :: rest) < 4294967296) (early : Bool) :
    ∃ start : UInt32, start.toNat = steps.toNat + totalLength high ∧
      heeded (limitsFrom steps (high ++ lower :: rest)) fastest early =
        (lower.speed, entrySteps start early) ::
          heeded (limitsFrom (start + lower.length) rest) fastest early := by
  induction high generalizing steps with
  | nil => exact ⟨steps, rfl, heeded_cons_lower below passable steps rest⟩
  | cons first high ih =>
    have next_eq := toNat_add_length short
    have rest_short :
        (steps + first.length).toNat + totalLength (high ++ lower :: rest) < 4294967296 := by
      simp only [List.cons_append, totalLength] at short
      omega
    obtain ⟨start, start_eq, heeded_eq⟩ := ih
      (fun stretch stretch_mem => above stretch (List.mem_cons_of_mem _ stretch_mem)) rest_short
    refine ⟨start, ?_, ?_⟩
    · simp only [totalLength]
      omega
    · rw [List.cons_append, heeded_cons_high (above first List.mem_cons_self)]
      exact heeded_eq

end PlannedLimit

namespace Section

/-- A limit that a convoy can run at, and that the bins of the braking distance cover. -/
def Limited (stretch : Section) : Prop := 0 < stretch.maxSpeed ∧ stretch.maxSpeed ≤ 7372

variable {stretch slower faster : Section}

theorem toInt_speed (limited : stretch.Limited) :
    stretch.speed.toInt = stretch.maxSpeed.toInt * 1024 / 80 := by
  obtain ⟨low, high⟩ := limited
  rw [Int32.lt_iff_toInt_lt] at low
  rw [Int32.le_iff_toInt_le] at high
  change 0 < stretch.maxSpeed.toInt at low
  change stretch.maxSpeed.toInt ≤ 7372 at high
  have quotient_eq : (stretch.maxSpeed.toInt * 1024).tdiv Units.speedFactor =
      stretch.maxSpeed.toInt * 1024 / 80 := Int.tdiv_eq_ediv_of_nonneg (by omega)
  rw [speed, Units.speedOfKmh, quotient_eq, Int32.toInt_ofInt]
  apply Int.bmod_eq_of_le <;> simp only [Int32.size] <;> omega

theorem speed_bounds (limited : stretch.Limited) :
    12 ≤ stretch.speed.toInt ∧ stretch.speed.toInt ≤ 94361 := by
  have speed_eq := toInt_speed limited
  obtain ⟨low, high⟩ := limited
  rw [Int32.lt_iff_toInt_lt] at low
  rw [Int32.le_iff_toInt_le] at high
  change 0 < stretch.maxSpeed.toInt at low
  change stretch.maxSpeed.toInt ≤ 7372 at high
  omega

theorem raw_velocity (stretch : Section) :
    stretch.velocity.raw = (2 * (stretch.speed.toInt * 838860800) + 36864) / 73728 :=
  Units.raw_velocityOfSpeed _

theorem velocity_bounds (limited : stretch.Limited) :
    273067 ≤ stretch.velocity.raw ∧ stretch.velocity.raw + 11378 ≤ 2147483648 := by
  have bounds := speed_bounds limited
  rw [raw_velocity]
  omega

theorem velocity_nonneg (limited : stretch.Limited) : zero ≤ stretch.velocity := by
  have := velocity_bounds limited
  rw [nonneg_iff]
  omega

theorem velocity_mono (le : slower.speed ≤ faster.speed) : slower.velocity ≤ faster.velocity :=
  Units.velocityOfSpeed_mono (Int32.le_iff_toInt_le.mp le)

end Section

/-- Counts from a head some yards past its position to a point so many steps from the position. -/
def roomTo (steps yards : Int) : ℚ := (4096 * steps - yards : Int) * (3200 / 9)

theorem le_roomTo {counts steps yards slack : Int}
    (le : 18 * counts ≤ 6400 * (4096 * steps - yards) + slack) :
    (counts : ℚ) ≤ roomTo steps yards + slack / 18 := by
  have le : (18 * counts : ℚ) ≤ 6400 * (4096 * steps - yards : Int) + slack := by exact_mod_cast le
  unfold roomTo
  linarith

theorem roomTo_mono {near far : Int} (le : near ≤ far) (yards : Int) :
    roomTo near yards ≤ roomTo far yards := by
  have le : ((4096 * near - yards : Int) : ℚ) ≤ (4096 * far - yards : Int) := by
    exact_mod_cast (by omega : 4096 * near - yards ≤ 4096 * far - yards)
  unfold roomTo
  linarith

theorem roomTo_nonpos {steps yards : Int} (reached : 4096 * steps ≤ yards) :
    roomTo steps yards ≤ 0 := by
  have reached : ((4096 * steps - yards : Int) : ℚ) ≤ 0 := by
    exact_mod_cast (by omega : 4096 * steps - yards ≤ 0)
  unfold roomTo
  linarith

/-- The way between two falls of the limit is long enough to brake from the one to the other and
for what a convoy may travel in a tick before. -/
def Brakes.Apart (brakes : Brakes) (before fall lower : Section) (length : Nat) : Prop :=
  brakes.distance fall.velocity ≤ brakes.distance lower.velocity +
    Units.metresOfSteps one (.ofInt (length - before.speed.toInt / 64 - 1))

theorem Brakes.Apart.raw_le {brakes : Brakes} {before fall lower : Section} {length : Nat}
    (apart : brakes.Apart before fall lower length) (firm : brakes.Firm)
    (lower_limited : lower.Limited) (before_limited : before.Limited)
    (short : length < 4294967296) :
    18 * (brakes.distance fall.velocity).raw ≤ 18 * (brakes.distance lower.velocity).raw +
      26214400 * (length - before.speed.toInt / 64 - 1) + 9 := by
  have speed_bounds := Section.speed_bounds before_limited
  have velocity_bounds := Section.velocity_bounds lower_limited
  have distance_bounds :=
    firm.able.distance_bounds (Section.velocity_nonneg lower_limited) (by omega)
  have metres_eq := Units.raw_metresOfSteps_one
    (by omega : -8589934592 ≤ (length : Int) - before.speed.toInt / 64 - 1) (by omega)
  rw [Apart, le_def, raw_add, metres_eq] at apart
  simp only [limit] at apart
  omega

/-- What a convoy on a section has ahead of it. -/
structure Vista (here : Section) (ahead : List Section) (start finish : UInt32) : Prop where
  /-- The limit of the section under its head. -/
  here_limited : here.Limited
  /-- The limits of the sections ahead. -/
  limited : ∀ stretch ∈ ahead, stretch.Limited
  /-- The next boundary is ahead. -/
  start_pos : 0 < start.toNat
  /-- The route ends behind the sections. -/
  finish_eq : finish.toNat = start.toNat + totalLength ahead

/-- Ahead of a convoy every further fall is far enough from the first. -/
def Brakes.SpacedAhead (brakes : Brakes) (here : Section) (ahead : List Section) : Prop :=
  ∀ high fall between lower back, ahead = high ++ fall :: (between ++ lower :: back) →
    (∀ stretch ∈ high, here.speed ≤ stretch.speed) → fall.speed < here.speed →
    lower.speed < fall.speed → brakes.Apart here fall lower (totalLength (fall :: between))

/-- A section ahead that is lower is the first such, or lies behind that. -/
theorem first_lower_cases (fastest : Int32) (front : List Section) :
    (∀ stretch ∈ front, fastest ≤ stretch.speed) ∨
      ∃ high fall between, front = high ++ fall :: between ∧
        (∀ stretch ∈ high, fastest ≤ stretch.speed) ∧ fall.speed < fastest := by
  induction front with
  | nil => exact .inl fun _ stretch_mem => absurd stretch_mem List.not_mem_nil
  | cons first front ih =>
    by_cases high : fastest ≤ first.speed
    · rcases ih with all_high | ⟨before, fall, between, rfl, above, below⟩
      · refine .inl fun stretch stretch_mem => ?_
        rcases List.mem_cons.mp stretch_mem with rfl | inside
        · exact high
        · exact all_high stretch inside
      · refine .inr ⟨first :: before, fall, between, rfl, fun stretch stretch_mem => ?_, below⟩
        rcases List.mem_cons.mp stretch_mem with rfl | inside
        · exact high
        · exact above stretch inside
    · exact .inr ⟨[], first, front, rfl,
        fun _ stretch_mem => absurd stretch_mem List.not_mem_nil, Int32.not_le.mp high⟩

namespace Brakes.Firm

variable {brakes : Brakes} {profile : Profile} {weight : WeightSummary} {speed : Int32}

theorem speed_covered (nonneg : 0 ≤ speed.toInt) (le : speed.toInt ≤ 94361) :
    zero ≤ Units.velocityOfSpeed speed ∧ (Units.velocityOfSpeed speed).raw ≤ 2147483648 := by
  rw [nonneg_iff, Units.raw_velocityOfSpeed]
  omega

theorem distance_finite (firm : brakes.Firm) {velocity : Fixed} (nonneg : zero ≤ velocity)
    (covered : velocity.raw ≤ 2147483648) : brakes.distance velocity ≠ .greatest := by
  intro endless
  have bounds := firm.able.distance_bounds nonneg covered
  rw [endless, raw_greatest] at bounds
  omega

theorem brakingSteps_eq (firm : brakes.Firm) (braked : profile.BrakesBy weight brakes)
    (nonneg : 0 ≤ speed.toInt) (le : speed.toInt ≤ 94361) :
    profile.brakingSteps one weight speed =
      Profile.wholeSteps one (brakes.distance (Units.velocityOfSpeed speed)) := by
  have covered := speed_covered nonneg le
  rw [Profile.brakingSteps, firm.able.brakingDistance_eq braked covered.1 covered.2]

theorem brakingSteps_mono (firm : brakes.Firm) (braked : profile.BrakesBy weight brakes)
    {slow fast : Int32} (nonneg : 0 ≤ slow.toInt) (le : slow.toInt ≤ fast.toInt)
    (fast_le : fast.toInt ≤ 94361) :
    (profile.brakingSteps one weight slow).toInt ≤
      (profile.brakingSteps one weight fast).toInt := by
  have slow_covered := speed_covered nonneg (le.trans fast_le)
  have fast_covered := speed_covered (nonneg.trans le) fast_le
  have slow_bounds := firm.able.distance_bounds slow_covered.1 slow_covered.2
  rw [firm.brakingSteps_eq braked nonneg (le.trans fast_le),
    firm.brakingSteps_eq braked (nonneg.trans le) fast_le]
  exact Profile.wholeSteps_one_mono slow_bounds.1
    (firm.able.distance_mono slow_covered.1 (Units.velocityOfSpeed_mono le) fast_covered.2)
    (firm.distance_finite fast_covered.1 fast_covered.2)

/-- Falls that are far enough apart are so in whole steps too. -/
theorem brakingSteps_le_of_apart (firm : brakes.Firm) (braked : profile.BrakesBy weight brakes)
    {here fall lower : Section} {length : Nat} (here_limited : here.Limited)
    (fall_limited : fall.Limited) (lower_limited : lower.Limited)
    (slower : lower.speed < fall.speed) (apart : brakes.Apart here fall lower length)
    (short : length < 4294967296) :
    (profile.brakingSteps one weight fall.speed).toInt ≤
      (profile.brakingSteps one weight lower.speed).toInt + length := by
  rw [Int32.lt_iff_toInt_lt] at slower
  have here_bounds := Section.speed_bounds here_limited
  have fall_bounds := Section.speed_bounds fall_limited
  have lower_bounds := Section.speed_bounds lower_limited
  have fall_covered := speed_covered (by omega) fall_bounds.2
  have lower_covered := speed_covered (by omega) lower_bounds.2
  have lower_distance := firm.able.distance_bounds lower_covered.1 lower_covered.2
  have distance_le := firm.able.distance_mono lower_covered.1
    (Units.velocityOfSpeed_mono (le_of_lt slower)) fall_covered.2
  have finite := firm.distance_finite fall_covered.1 fall_covered.2
  have raw_le := apart.raw_le firm lower_limited here_limited short
  change 18 * (brakes.distance (Units.velocityOfSpeed fall.speed)).raw ≤
    18 * (brakes.distance (Units.velocityOfSpeed lower.speed)).raw + _ + 9 at raw_le
  have raw_mono := le_def.mp distance_le
  have steps_le := Profile.wholeSteps_one_le_add lower_distance.1 distance_le finite
    (by omega : 0 ≤ (length : Int) - here.speed.toInt / 64 - 1) raw_le
  rw [firm.brakingSteps_eq braked (by omega) fall_bounds.2,
    firm.brakingSteps_eq braked (by omega) lower_bounds.2]
  omega

end Brakes.Firm

namespace Profile

variable {profile : Profile} {weight : WeightSummary} {brakes : Brakes} {here : Section}
  {ahead high after : List Section} {lower : Section} {start finish : UInt32}
  {cruise : MoveRequest} {motion : MotionState}

/-- A limit some steps ahead, planned for a convoy that moves on a map of scale one. -/
def planned (profile : Profile) (weight : WeightSummary) (motion : MotionState) :
    Int32 × UInt32 → PlannedLimit :=
  PlannedLimit.plan (profile.brakingSteps one weight) (profile.brakingSteps one weight motion.speed)

theorem planned_brakeAt (speed : Int32) (steps : UInt32) :
    (profile.planned weight motion (speed, steps)).brakeAt =
      steps.toNat - max ((profile.brakingSteps one weight motion.speed).toInt -
        (profile.brakingSteps one weight speed).toInt) 0 := rfl

/-- The outlook in terms of the limits heeded. -/
theorem outlook_eq_nearest (scale_eq : cruise.mapScale = one)
    (target_eq : cruise.target = here.speed) (speed_le : motion.speed.toInt ≤ here.speed.toInt)
    (points : List LimitPoint) :
    profile.outlook weight cruise points motion =
      match PlannedLimit.nearest ((PlannedLimit.heeded points here.speed (0 < motion.yards)).map
        (profile.planned weight motion)) with
      | some limit => limit.request cruise
      | none => cruise := by
  have fastest_eq : max cruise.target motion.speed = here.speed := by
    apply Int32.toInt_inj.mp
    rw [toInt_max32, target_eq]
    exact max_eq_left speed_le
  simp only [outlook, fastest_eq, tabledBrakingSteps_eq, scale_eq]
  rfl

/-- No limit behind the first lower one has to be braked for sooner. -/
theorem brakeAt_le_behind (firm : brakes.Firm) (braked : profile.BrakesBy weight brakes)
    (vista : Vista here ahead start finish) {between back : List Section} {further : Section}
    (ahead_eq : ahead = high ++ lower :: (between ++ further :: back))
    (above : ∀ stretch ∈ high, here.speed ≤ stretch.speed) (below : lower.speed < here.speed)
    (spaced : brakes.SpacedAhead here ahead) {entry begin : UInt32}
    (entry_eq : entry.toNat = start.toNat + totalLength high)
    (begin_eq : begin.toNat = entry.toNat + totalLength (lower :: between))
    (motion : MotionState) (early : Bool) :
    (profile.planned weight motion (lower.speed, entrySteps entry early)).brakeAt ≤
      (profile.planned weight motion (further.speed, entrySteps begin early)).brakeAt := by
  have short := begin.toNat_lt
  have start_pos := vista.start_pos
  have lower_limited : lower.Limited := vista.limited lower (by simp [ahead_eq])
  have further_limited : further.Limited := vista.limited further (by simp [ahead_eq])
  have distance_le : (profile.brakingSteps one weight lower.speed).toInt -
      (profile.brakingSteps one weight further.speed).toInt ≤ totalLength (lower :: between) := by
    by_cases slower : further.speed < lower.speed
    · have apart := spaced high lower between further back ahead_eq above below slower
      have := firm.brakingSteps_le_of_apart braked vista.here_limited lower_limited
        further_limited slower apart (by omega)
      omega
    · have lower_bounds := Section.speed_bounds lower_limited
      have further_bounds := Section.speed_bounds further_limited
      have speed_le := Int32.le_iff_toInt_le.mp (Int32.not_lt.mp slower)
      have := firm.brakingSteps_mono braked (by omega) speed_le further_bounds.2
      omega
  rw [planned_brakeAt, planned_brakeAt, toNat_entrySteps, toNat_entrySteps]
  cases early with
  | false =>
    simp only [Bool.false_eq_true, if_false]
    omega
  | true =>
    simp only [if_true]
    omega

/-- A convoy heeds the first lower limit, or the route end. -/
theorem outlook_of_first_lower (firm : brakes.Firm) (braked : profile.BrakesBy weight brakes)
    (vista : Vista here ahead start finish) (ahead_eq : ahead = high ++ lower :: after)
    (above : ∀ stretch ∈ high, here.speed ≤ stretch.speed) (below : lower.speed < here.speed)
    (spaced : brakes.SpacedAhead here ahead) (scale_eq : cruise.mapScale = one)
    (target_eq : cruise.target = here.speed) (speed_le : motion.speed.toInt ≤ here.speed.toInt) :
    ∃ entry : UInt32, entry.toNat = start.toNat + totalLength high ∧
      profile.outlook weight cruise (Route.limitsFrom start ahead ++ [⟨finish, 0⟩]) motion =
        (if (profile.planned weight motion (0, finish)).brakeAt <
            (profile.planned weight motion
              (lower.speed, entrySteps entry (0 < motion.yards))).brakeAt then
          profile.planned weight motion (0, finish)
        else
          profile.planned weight motion
            (lower.speed, entrySteps entry (0 < motion.yards))).request cruise := by
  have short := finish.toNat_lt
  have lengths := vista.finish_eq
  have lower_limited : lower.Limited :=
    vista.limited lower (ahead_eq ▸ List.mem_append_right _ List.mem_cons_self)
  have entered : start.toNat + totalLength (high ++ lower :: after) < 4294967296 := by
    rw [← ahead_eq]
    omega
  obtain ⟨entry, entry_eq, heeded_eq⟩ := PlannedLimit.heeded_of_first_lower above below
    lower_limited.1 entered (0 < motion.yards)
  have here_bounds := Section.speed_bounds vista.here_limited
  have end_heeded : PlannedLimit.heeded [⟨finish, 0⟩] here.speed (0 < motion.yards) =
      [((0 : Int32), finish)] := by
    have stopping : ¬ here.speed ≤ Units.speedOfKmh 0 := by
      rw [Int32.not_le, Int32.lt_iff_toInt_lt]
      exact lt_of_lt_of_le (by decide) here_bounds.1
    have no_limit : ¬ ((0 : Int32) < 0 ∧ decide (0 < motion.yards) = true) := by
      rintro ⟨positive, -⟩
      exact absurd positive (by decide)
    rw [PlannedLimit.heeded, List.filterMap_cons_some]
    · rfl
    · refine (if_neg stopping).trans ?_
      simp only [no_limit, if_false]
      rfl
  refine ⟨entry, entry_eq, ?_⟩
  rw [outlook_eq_nearest scale_eq target_eq speed_le, PlannedLimit.heeded_append, ahead_eq,
    heeded_eq, end_heeded, List.cons_append, List.map_cons, List.map_append, List.map_cons,
    List.map_nil, PlannedLimit.nearest_of_first]
  intro next next_mem
  obtain ⟨limit, limit_mem, rfl⟩ := List.mem_map.mp next_mem
  have after_limited : ∀ stretch ∈ after, stretch.Limited :=
    fun stretch stretch_mem => vista.limited stretch (by simp [ahead_eq, stretch_mem])
  rw [totalLength_append, totalLength] at entered
  have next_eq : (entry + lower.length).toNat = entry.toNat + lower.length.toNat := by
    rw [UInt32.toNat_add]
    omega
  obtain ⟨between, further, back, begin, rfl, -, begin_eq, rfl⟩ := PlannedLimit.mem_heeded
    (fun stretch stretch_mem => (after_limited stretch stretch_mem).1) (by omega) limit_mem
  refine brakeAt_le_behind firm braked vista ahead_eq above below spaced entry_eq ?_ motion _
  rw [totalLength]
  omega

end Profile

end Haulage
