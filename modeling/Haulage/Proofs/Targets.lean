import Haulage.Proofs.Lookup
import Haulage.Proofs.Obedience

/-!
# Limits as targets

A convoy runs towards the limit of the section under its head, and of the limits ahead it heeds one,
all in simulation units.  Up to 167772159 km/h a limit becomes a positive speed, cut off below, and
the order of two limits is kept: where limits are raised and nothing else is changed, no target and
no limit ahead is slower than before.  A faster limit does not fit the word of a speed.
-/

namespace Haulage

namespace Units

/-- The fastest limit whose simulation speed fits a 32-bit word, km/h. -/
def fastestKmh : Int32 := 167772159

variable {kmh slower faster : Int32}

theorem toInt_speedOfKmh (pos : 0 < kmh) (told : kmh ≤ fastestKmh) :
    (speedOfKmh kmh).toInt = kmh.toInt * 1024 / 80 := by
  have low : 0 < kmh.toInt := Int32.lt_iff_toInt_lt.mp pos
  have high : kmh.toInt ≤ 167772159 := Int32.le_iff_toInt_le.mp told
  rw [speedOfKmh, speedFactor, Int.tdiv_eq_ediv_of_nonneg (by omega), toInt_ofInt32] <;> omega

/-- The speed of a faster limit is above every word. -/
theorem toInt_speedOfKmh_iff (pos : 0 < kmh) :
    (speedOfKmh kmh).toInt = kmh.toInt * 1024 / 80 ↔ kmh ≤ fastestKmh := by
  refine ⟨fun exact => ?_, toInt_speedOfKmh pos⟩
  have high := (speedOfKmh kmh).toInt_lt
  apply Int32.le_iff_toInt_le.mpr
  change kmh.toInt ≤ 167772159
  omega

theorem speedOfKmh_pos (pos : 0 < kmh) (told : kmh ≤ fastestKmh) : 0 < speedOfKmh kmh := by
  have low : 0 < kmh.toInt := Int32.lt_iff_toInt_lt.mp pos
  rw [Int32.lt_iff_toInt_lt, toInt_speedOfKmh pos told]
  change 0 < _
  omega

theorem speedOfKmh_mono (pos : 0 < slower) (le : slower ≤ faster) (told : faster ≤ fastestKmh) :
    speedOfKmh slower ≤ speedOfKmh faster := by
  have le_toInt := Int32.le_iff_toInt_le.mp le
  rw [Int32.le_iff_toInt_le, toInt_speedOfKmh pos (Int32.le_trans le told),
    toInt_speedOfKmh (Int32.lt_of_lt_of_le pos le) told]
  omega

end Units

/-- The same section with a limit that may be higher. -/
structure Section.Raised (before after : Section) : Prop where
  /-- Nothing else is changed. -/
  same : after = { before with maxSpeed := after.maxSpeed }
  /-- The limit is not lowered. -/
  limit_le : before.maxSpeed ≤ after.maxSpeed

/-- The same section with a target that is not slower. -/
structure Section.NoSlower (before after : Section) : Prop where
  /-- The length is the same. -/
  length_eq : after.length = before.length
  /-- The target is not slower. -/
  speed_le : before.speed ≤ after.speed

/-- A limit that starts where another one does and is not slower. -/
structure LimitPoint.NoSlower (before after : LimitPoint) : Prop where
  /-- It starts at the same distance. -/
  steps_eq : after.steps = before.steps
  /-- It is not slower. -/
  speed_le : Units.speedOfKmh before.kmh ≤ Units.speedOfKmh after.kmh

theorem Section.Raised.noSlower {before after : Section} (raises : before.Raised after)
    (pos : 0 < before.maxSpeed) (told : after.maxSpeed ≤ Units.fastestKmh) :
    before.NoSlower after where
  length_eq := by rw [raises.same]
  speed_le := Units.speedOfKmh_mono pos raises.limit_le told

section Lists

variable {before after : List Section}

theorem noSlower_of_raised (raises : List.Forall₂ Section.Raised before after)
    (pos : ∀ stretch ∈ before, 0 < stretch.maxSpeed)
    (told : ∀ stretch ∈ after, stretch.maxSpeed ≤ Units.fastestKmh) :
    List.Forall₂ Section.NoSlower before after := by
  induction raises with
  | nil => exact .nil
  | cons head _ ih =>
    rw [List.forall_mem_cons] at pos told
    exact .cons (head.noSlower pos.1 told.1) (ih pos.2 told.2)

theorem passable_of_raised (raises : List.Forall₂ Section.Raised before after)
    (passable : ∀ stretch ∈ before, 0 < stretch.length ∧ 0 < stretch.maxSpeed) :
    ∀ stretch ∈ after, 0 < stretch.length ∧ 0 < stretch.maxSpeed := by
  induction raises with
  | nil => exact passable
  | cons head _ ih =>
    rw [List.forall_mem_cons] at passable ⊢
    obtain ⟨⟨length_pos, limit_pos⟩, rest⟩ := passable
    refine ⟨⟨?_, Int32.lt_of_lt_of_le limit_pos head.limit_le⟩, ih rest⟩
    rw [head.same]
    exact length_pos

theorem totalLength_of_noSlower (even : List.Forall₂ Section.NoSlower before after) :
    totalLength after = totalLength before := by
  induction even with
  | nil => rfl
  | cons head _ ih => rw [totalLength, totalLength, head.length_eq, ih]

theorem countStarts_of_noSlower (even : List.Forall₂ Section.NoSlower before after)
    (passes : Nat → Bool) (start : Nat) :
    Route.countStarts passes start after = Route.countStarts passes start before := by
  induction even generalizing start with
  | nil => rfl
  | cons head _ ih => rw [Route.countStarts, Route.countStarts, head.length_eq, ih]

theorem limitsFrom_of_noSlower (even : List.Forall₂ Section.NoSlower before after)
    (distance : UInt32) :
    List.Forall₂ LimitPoint.NoSlower (Route.limitsFrom distance before)
      (Route.limitsFrom distance after) := by
  induction even generalizing distance with
  | nil => exact .nil
  | cons head _ ih =>
    rw [Route.limitsFrom, Route.limitsFrom, head.length_eq]
    exact .cons ⟨rfl, head.speed_le⟩ (ih _)

end Lists

namespace Route

section NoSlower

variable {route raised : Route}
  (even : List.Forall₂ Section.NoSlower route.sections raised.sections)

include even

theorem length_of_noSlower : raised.length = route.length := by
  rw [length, length, totalLength_of_noSlower even]

theorem placeAt_of_noSlower (position : UInt32) (direction : Direction) :
    raised.placeAt position direction = route.placeAt position direction := by
  cases direction <;> rw [placeAt, placeAt, countStarts_of_noSlower even]

theorem stepsToEnd_of_noSlower (position : UInt32) (direction : Direction) :
    raised.stepsToEnd position direction = route.stepsToEnd position direction := by
  simp only [stepsToEnd, length_of_noSlower even]

theorem stepsToBoundary_of_noSlower (position : UInt32) (place : Nat) (direction : Direction) :
    raised.stepsToBoundary position place direction =
      route.stepsToBoundary position place direction := by
  cases direction <;>
    rw [stepsToBoundary, stepsToBoundary, totalLength_of_noSlower (List.forall₂_take _ even)]

theorem sectionsAhead_noSlower (place : Nat) (direction : Direction) :
    List.Forall₂ Section.NoSlower (route.sectionsAhead place direction)
      (raised.sectionsAhead place direction) := by
  cases direction with
  | forward => exact List.forall₂_drop _ even
  | backward => exact List.forall₂_reverse_iff.mpr (List.forall₂_take _ even)

theorem limitsAhead_noSlower (position : UInt32) (direction : Direction) :
    List.Forall₂ LimitPoint.NoSlower (route.limitsAhead position direction)
      (raised.limitsAhead position direction) := by
  rw [limitsAhead, limitsAhead, placeAt_of_noSlower even, stepsToEnd_of_noSlower even,
    stepsToBoundary_of_noSlower even]
  exact List.rel_append (limitsFrom_of_noSlower (sectionsAhead_noSlower even _ _) _)
    (.cons ⟨rfl, Int32.le_refl _⟩ .nil)

theorem targetSpeed_noSlower (convoy : Convoy) :
    convoy.targetSpeed route ≤ convoy.targetSpeed raised := by
  simp only [Convoy.targetSpeed, get?]
  generalize convoy.stretch.place = place
  generalize route.sections = before, raised.sections = after at even
  induction even generalizing place with
  | nil => exact Int32.le_refl _
  | cons head _ ih =>
    cases place with
    | zero => exact head.speed_le
    | succ place => exact ih place

end NoSlower

end Route

/-- An outlook heeds no limit that does not lie ahead. -/
theorem Profile.outlook_cases (profile : Profile) (weight : WeightSummary) (cruise : MoveRequest)
    (points : List LimitPoint) (motion : MotionState) :
    profile.outlook weight cruise points motion = cruise ∨
      ∃ point ∈ points,
        (profile.outlook weight cruise points motion).limit = Units.speedOfKmh point.kmh := by
  unfold outlook
  simp only
  split
  · next limit nearest_eq =>
    obtain ⟨heeded, heeded_mem, rfl⟩ := List.mem_map.mp (PlannedLimit.nearest_mem nearest_eq)
    obtain ⟨point, point_mem, kept⟩ := List.mem_filterMap.mp heeded_mem
    refine .inr ⟨point, point_mem, ?_⟩
    simp only at kept
    split at kept
    · contradiction
    · split at kept <;> obtain rfl := Option.some.inj kept <;> rfl
  · exact .inl rfl

namespace Route

/-- What is heeded on the raised route is a limit there, and in its place it was not faster. -/
theorem heeds_noSlower {before after : List LimitPoint}
    (even : List.Forall₂ LimitPoint.NoSlower before after) {point : LimitPoint}
    (point_mem : point ∈ after) :
    ∃ former, (former, point) ∈ before.zip after ∧
      Units.speedOfKmh former.kmh ≤ Units.speedOfKmh point.kmh := by
  induction even with
  | nil => contradiction
  | cons head _ ih =>
    rcases List.mem_cons.mp point_mem with rfl | later
    · exact ⟨_, List.mem_cons_self, head.speed_le⟩
    · obtain ⟨former, paired, le⟩ := ih later
      exact ⟨former, List.mem_cons_of_mem _ paired, le⟩

/-- On every accepted route the target of a section is its limit times 1024 / 80, cut off, exactly
if the limit is at most 167772159 km/h; such targets are positive and ordered as the limits are.
Where limits are raised and none is faster than that, the sections still make a route; no convoy has
a slower target on it, no limit ahead is slower or starts elsewhere, and a convoy that heeds one
heeds one that was not faster before. -/
theorem targets_keep_order {sections : List Section} {route : Route}
    (accepted : ofSections sections = .ok route) :
    (∀ stretch ∈ sections, stretch.speed.toInt = stretch.maxSpeed.toInt * 1024 / 80 ↔
        stretch.maxSpeed ≤ Units.fastestKmh) ∧
      (∀ slower ∈ sections, ∀ faster ∈ sections, slower.maxSpeed ≤ faster.maxSpeed →
        faster.maxSpeed ≤ Units.fastestKmh → 0 < slower.speed ∧ slower.speed ≤ faster.speed) ∧
      ∀ lifted, List.Forall₂ Section.Raised sections lifted →
        (∀ stretch ∈ lifted, stretch.maxSpeed ≤ Units.fastestKmh) →
        ∃ raised, ofSections lifted = .ok raised ∧
          (∀ convoy : Convoy, convoy.targetSpeed route ≤ convoy.targetSpeed raised) ∧
          ∀ position direction,
            let before := route.limitsAhead position direction
            let after := raised.limitsAhead position direction
            List.Forall₂ LimitPoint.NoSlower before after ∧
              ∀ profile weight cruise motion,
                let planned := Profile.outlook profile weight cruise after motion
                planned = cruise ∨ ∃ former point, (former, point) ∈ before.zip after ∧
                  planned.limit = Units.speedOfKmh point.kmh ∧
                  Units.speedOfKmh former.kmh ≤ planned.limit := by
  obtain rfl := ofSections_eq_ok_iff.mp accepted
  refine ⟨fun stretch stretch_mem => ?_, fun slower slower_mem faster _ le told => ?_,
    fun lifted raises told => ?_⟩
  · exact Units.toInt_speedOfKmh_iff (route.passable stretch stretch_mem).2
  · have pos := (route.passable slower slower_mem).2
    exact ⟨Units.speedOfKmh_pos pos (Int32.le_trans le told), Units.speedOfKmh_mono pos le told⟩
  · have even := noSlower_of_raised raises (fun stretch mem => (route.passable stretch mem).2) told
    obtain ⟨raised, raised_accepted⟩ : ∃ raised, ofSections lifted = .ok raised := by
      refine exists_ofSections_iff.mpr ⟨?_, passable_of_raised raises route.passable, ?_⟩
      · rintro rfl
        exact route.nonempty (List.forall₂_nil_right_iff.mp raises)
      · rw [totalLength_of_noSlower even]
        exact route.length_lt
    refine ⟨raised, raised_accepted, ?_⟩
    obtain rfl := ofSections_eq_ok_iff.mp raised_accepted
    refine ⟨targetSpeed_noSlower even, fun position direction => ?_⟩
    have points_even := limitsAhead_noSlower even position direction
    refine ⟨points_even, fun profile weight cruise motion => ?_⟩
    rcases profile.outlook_cases weight cruise (raised.limitsAhead position direction) motion with
      none | ⟨point, point_mem, limit_eq⟩
    · exact .inl none
    · obtain ⟨former, paired, le⟩ := heeds_noSlower points_even point_mem
      exact .inr ⟨former, point, paired, limit_eq, limit_eq ▸ le⟩

/-- A branch at 80 km/h ahead of a line at 120 km/h is raised to the fastest limit there is. -/
theorem branch_raised :
    let line : Section := { way := .track, length := 4, maxSpeed := 120 }
    let branch : Section := { way := .track, length := 5, maxSpeed := 80 }
    let faster : Section := { way := .track, length := 5, maxSpeed := Units.fastestKmh }
    ∃ route raised, ofSections [line, branch] = .ok route ∧ ofSections [line, faster] = .ok raised ∧
      branch.speed.toInt = 80 * 1024 / 80 ∧ 0 < branch.speed ∧ branch.speed ≤ line.speed ∧
      List.Forall₂ LimitPoint.NoSlower (route.limitsAhead 1 .forward)
        (raised.limitsAhead 1 .forward) := by
  intro line branch faster
  have raises : List.Forall₂ Section.Raised [line, branch] [line, faster] :=
    .cons ⟨rfl, Int32.le_refl _⟩ (.cons ⟨rfl, by decide⟩ .nil)
  obtain ⟨route, accepted⟩ : ∃ route, ofSections [line, branch] = .ok route :=
    exists_ofSections_iff.mpr ⟨by decide, by decide, by decide⟩
  obtain ⟨exact, ordered, further⟩ := targets_keep_order accepted
  obtain ⟨raised, raised_accepted, -, ahead⟩ := further [line, faster] raises (by decide)
  have branch_mem : branch ∈ [line, branch] := by decide
  have slower := ordered branch branch_mem line (by decide) (by decide) (by decide)
  exact ⟨route, raised, accepted, raised_accepted, (exact branch branch_mem).mpr (by decide),
    slower.1, slower.2, (ahead 1 .forward).1⟩

/-- A limit of 167772160 km/h is accepted and its target is the lowest word; raised to it, a limit
of 120 km/h has a slower target than before. -/
theorem fast_limit_negative :
    let line : Section := { way := .track, length := 4, maxSpeed := 120 }
    let faster : Section := { way := .track, length := 4, maxSpeed := 167772160 }
    (∃ route, ofSections [line] = .ok route) ∧ (∃ route, ofSections [faster] = .ok route) ∧
      line.Raised faster ∧ faster.speed = Int32.minValue ∧ faster.speed < line.speed := by
  intro line faster
  exact ⟨exists_ofSections_iff.mpr ⟨by decide, by decide, by decide⟩,
    exists_ofSections_iff.mpr ⟨by decide, by decide, by decide⟩, ⟨rfl, by decide⟩, by decide,
    by decide⟩

end Route

end Haulage
