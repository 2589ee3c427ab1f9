import Haulage.Proofs.Lookup

/-!
# Running backward

A convoy that runs backward meets what it would meet running forward on the mirrored route: the
sections in reverse, each with its slope turned round.  A position is then counted from the other
end.
-/

namespace Haulage

namespace Section

/-- The section as it is for a convoy that comes from the other side. -/
def mirrored (stretch : Section) : Section :=
  { stretch with slope := .ofIntClamp (-stretch.slope.toInt) }

theorem context_mirrored (stretch : Section) :
    stretch.mirrored.context .forward = stretch.context .backward := rfl

end Section

theorem totalLength_map_mirrored (sections : List Section) :
    totalLength (sections.map Section.mirrored) = totalLength sections := by
  induction sections with
  | nil => rfl
  | cons first rest ih => rw [List.map_cons, totalLength, ih, totalLength, Section.mirrored]

namespace Route

/-- The route seen from its other end. -/
def mirrored (route : Route) : Route where
  sections := (route.sections.map Section.mirrored).reverse
  nonempty := by simpa using route.nonempty
  passable := by
    intro image image_mem
    rw [List.mem_reverse, List.mem_map] at image_mem
    obtain ⟨stretch, stretch_mem, rfl⟩ := image_mem
    exact route.passable stretch stretch_mem
  length_lt := by
    rw [totalLength_reverse, totalLength_map_mirrored]
    exact route.length_lt

variable {route : Route} {position : UInt32}

theorem sections_length_mirrored : route.mirrored.sections.length = route.sections.length := by
  rw [mirrored, List.length_reverse, List.length_map]

theorem length_mirrored : route.mirrored.length = route.length := by
  rw [length, mirrored, totalLength_reverse, totalLength_map_mirrored, length]

theorem getElem?_mirrored {place : Nat} (place_lt : place < route.sections.length) :
    route.mirrored.sections[place]? =
      route.sections[route.sections.length - 1 - place]?.map Section.mirrored := by
  rw [mirrored, List.getElem?_reverse (by rwa [List.length_map]), List.length_map, List.getElem?_map]

/-- A boundary that is some way from one end is the rest of the way from the other. -/
theorem startOf_mirrored (place : Nat) :
    route.mirrored.startOf place + route.startOf (route.sections.length - place) =
      route.length.toNat := by
  have parts := congrArg totalLength
    (List.take_append_drop (route.sections.length - place) route.sections)
  rw [totalLength_append] at parts
  rw [startOf, startOf, mirrored, List.take_reverse, List.length_map, ← List.map_drop,
    totalLength_reverse, totalLength_map_mirrored, toNat_length]
  omega

theorem toNat_length_sub (inside : position ≤ route.length) :
    (route.length - position).toNat = route.length.toNat - position.toNat :=
  UInt32.toNat_sub_of_le _ _ inside

theorem placeAt_mirrored (inside : position ≤ route.length) :
    route.placeAt position .backward +
      route.mirrored.placeAt (route.length - position) .forward + 1 = route.sections.length := by
  have place_lt := route.placeAt_lt position .backward
  have entry := route.startOf_mirrored (route.sections.length - 1 - route.placeAt position .backward)
  have exit := route.startOf_mirrored (route.sections.length - route.placeAt position .backward)
  obtain ⟨not_left, entered⟩ := route.placeAt_backward_bounds inside
  have image_eq : route.mirrored.placeAt (route.length - position) .forward =
      route.sections.length - 1 - route.placeAt position .backward := by
    have next_eq : route.sections.length - 1 - route.placeAt position .backward + 1 =
        route.sections.length - route.placeAt position .backward := by omega
    have entry_back : route.sections.length -
        (route.sections.length - 1 - route.placeAt position .backward) =
          route.placeAt position .backward + 1 := by omega
    -- The section ends there where it begins here, and the other way round.
    rw [entry_back] at entry
    rw [Nat.sub_sub_self place_lt.le] at exit
    apply placeAt_forward_eq
    · rw [sections_length_mirrored]
      omega
    · rw [toNat_length_sub inside]
      omega
    · intro behind
      rw [next_eq, sections_length_mirrored] at behind
      have left := not_left (by omega)
      rw [next_eq, toNat_length_sub inside]
      omega
  omega

/-- The limits ahead are the same, and as far away. -/
theorem pointsAhead_mirrored (inside : position ≤ route.length) :
    route.pointsAhead position .backward =
      route.mirrored.pointsAhead (route.length - position) .forward := by
  have places := placeAt_mirrored inside
  apply List.ext_getElem?
  intro index
  rw [getElem?_pointsAhead_forward]
  obtain ⟨image, image_eq⟩ : ∃ image,
    route.mirrored.placeAt (route.length - position) .forward = image := ⟨_, rfl⟩
  rw [image_eq] at places ⊢
  rcases Nat.lt_or_ge index (route.placeAt position .backward) with index_lt | beyond
  · have entry := route.startOf_mirrored (image + 1 + index)
    have stretch_eq : route.sections.length - 1 - (image + 1 + index) =
        route.placeAt position .backward - 1 - index := by omega
    have entry_eq : route.sections.length - (image + 1 + index) =
        route.placeAt position .backward - index := by omega
    have on_route := UInt32.le_iff_toNat_le.mp inside
    rw [entry_eq] at entry
    rw [getElem?_pointsAhead_backward inside index_lt, getElem?_mirrored (by omega), stretch_eq,
      Option.map_map, toNat_length_sub inside]
    apply Option.map_congr
    intro stretch _
    refine congrArg (LimitPoint.mk · stretch.maxSpeed) (congrArg UInt32.ofNat ?_)
    omega
  -- As many sections lie ahead on both routes.
  · rw [List.getElem?_eq_none (by rwa [length_pointsAhead_backward]),
      List.getElem?_eq_none (by rw [sections_length_mirrored]; omega)]
    rfl

theorem stepsToEnd_mirrored (inside : position ≤ route.length) :
    route.stepsToEnd position .backward =
      route.mirrored.stepsToEnd (route.length - position) .forward := by
  have near := reaches_endPosition inside .backward
  have image_inside : route.length - position ≤ route.mirrored.length := by
    rw [length_mirrored, UInt32.le_iff_toNat_le, toNat_length_sub inside]
    omega
  have far := reaches_endPosition image_inside .forward
  rw [UInt32.le_iff_toNat_le] at inside
  apply UInt32.toNat_inj.mp
  simp only [Direction.Reaches, endPosition, length_mirrored, UInt32.toNat_zero,
    toNat_length_sub inside] at near far
  omega

theorem advance_mirrored (inside : position ≤ route.length) (steps : UInt32) :
    (route.advance position .backward steps).toNat +
      (route.mirrored.advance (route.length - position) .forward steps).toNat =
        route.length.toNat := by
  have on_route := UInt32.le_iff_toNat_le.mp inside
  rw [toNat_advance_backward, toNat_advance_forward, length_mirrored, toNat_length_sub inside]
  omega

/-- To run backward along a route is to run forward along the mirrored one, which is a route as long
and of as many sections.  A head that is as far from the other end stands there on the same section,
has the same limits ahead and as far to go, and comes as far with the same steps; and every section
is there what it is here for one that runs backward. -/
theorem backward_as_mirrored {sections : List Section} {route : Route}
    (accepted : ofSections sections = .ok route) :
    ∃ mirror, ofSections (sections.map Section.mirrored).reverse = .ok mirror ∧
      mirror.length = route.length ∧ mirror.sections.length = sections.length ∧
      (∀ position ≤ route.length,
        (route.sectionAt position .backward).place +
            (mirror.sectionAt (route.length - position) .forward).place + 1 = sections.length ∧
          route.limitsAhead position .backward =
            mirror.limitsAhead (route.length - position) .forward ∧
          (∀ steps, (route.advance position .backward steps).toNat +
            (mirror.advance (route.length - position) .forward steps).toNat =
              route.length.toNat) ∧
          route.stepsToEnd position .backward =
            mirror.stepsToEnd (route.length - position) .forward) ∧
      ∀ place stretch, route.sections[place]? = some stretch →
        ∃ image, mirror.sections[sections.length - 1 - place]? = some image ∧
          image.context .forward = stretch.context .backward := by
  obtain rfl := ofSections_eq_ok_iff.mp accepted
  refine ⟨route.mirrored, ofSections_eq_ok_iff.mpr rfl, length_mirrored, sections_length_mirrored,
    fun position inside => ⟨?_, ?_, advance_mirrored inside, stepsToEnd_mirrored inside⟩, ?_⟩
  · rw [place_sectionAt, place_sectionAt]
    exact placeAt_mirrored inside
  · rw [limitsAhead_eq, limitsAhead_eq, pointsAhead_mirrored inside, stepsToEnd_mirrored inside]
  · intro place stretch found
    have place_lt := (List.getElem?_eq_some_iff.mp found).1
    have place_back : route.sections.length - 1 - (route.sections.length - 1 - place) = place := by
      omega
    refine ⟨stretch.mirrored, ?_, stretch.context_mirrored⟩
    rw [getElem?_mirrored (by omega), place_back, found]
    rfl

/-- A slope up to a short crest with an overhead line, and a level stretch behind it. -/
def crest : List Section := [⟨.track, 3, 60, 25, false⟩, ⟨.track, 1, 40, -32768, true⟩,
  ⟨.track, 5, 80, 0, false⟩]

/-- From the other end the slope goes down, and the crest is climbed as steeply as a word can
say. -/
theorem crest_from_the_other_end :
    ∃ route mirror, ofSections crest = .ok route ∧
      ofSections [⟨.track, 5, 80, 0, false⟩, ⟨.track, 1, 40, 32767, true⟩,
        ⟨.track, 3, 60, -25, false⟩] = .ok mirror ∧
      (route.sectionAt 4 .backward).place + (mirror.sectionAt 5 .forward).place + 1 = 3 ∧
      route.limitsAhead 4 .backward = mirror.limitsAhead 5 .forward := by
  obtain ⟨route, accepted⟩ : ∃ route, ofSections crest = .ok route :=
    exists_ofSections_iff.mpr ⟨by decide, by decide, by decide⟩
  obtain ⟨mirror, mirror_accepted, -, -, heads, -⟩ := backward_as_mirrored accepted
  have length_eq : route.length = 9 := by
    rw [length, ofSections_eq_ok_iff.mp accepted]
    decide
  have inside : (4 : UInt32) ≤ route.length := by
    rw [length_eq]
    decide
  have from_end : route.length - 4 = 5 := by
    rw [length_eq]
    decide
  obtain ⟨places, limits_eq, -, -⟩ := heads 4 inside
  rw [from_end] at places limits_eq
  exact ⟨route, mirror, accepted, mirror_accepted, places, limits_eq⟩

end Route

end Haulage
