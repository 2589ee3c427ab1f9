import Haulage.Proofs.Travel

/-!
# Looking up a position

For each way to run, the sections cut a route into stretches that are open where a head leaves them
and closed where it enters.  A head stands on the one section whose stretch holds its position, and
at the end of the route on the section that it entered last.  The limits ahead are the entries to
the sections that it has not entered yet, each with the limit that starts there.
-/

namespace Haulage

namespace Route

variable (route : Route)

/-- Where the section at a place begins; the route ends where one behind the last would begin. -/
def startOf (place : Nat) : Nat := totalLength (route.sections.take place)

@[simp] theorem startOf_zero : route.startOf 0 = 0 := rfl

theorem startOf_length : route.startOf route.sections.length = route.length.toNat := by
  rw [startOf, List.take_length, toNat_length]

variable {route}

theorem startOf_succ {place : Nat} {stretch : Section}
    (found : route.sections[place]? = some stretch) :
    route.startOf (place + 1) = route.startOf place + stretch.length.toNat := by
  rw [startOf, startOf, List.take_add_one, found, totalLength_append]
  simp [totalLength]

theorem startOf_lt_succ {place : Nat} (place_lt : place < route.sections.length) :
    route.startOf place < route.startOf (place + 1) := by
  have found := List.getElem?_eq_getElem place_lt
  have stretch_pos :=
    UInt32.lt_iff_toNat_lt.mp (route.passable _ (List.getElem_mem place_lt)).1
  rw [startOf_succ found]
  simp only [UInt32.toNat_zero] at stretch_pos
  omega

theorem startOf_mono {near far : Nat} (le : near ≤ far) :
    route.startOf near ≤ route.startOf far := by
  obtain ⟨further, rfl⟩ := Nat.exists_eq_add_of_le le
  rw [startOf, startOf, List.take_add, totalLength_append]
  exact Nat.le_add_right _ _

theorem startOf_lt {near far : Nat} (lt : near < far) (far_le : far ≤ route.sections.length) :
    route.startOf near < route.startOf far :=
  (startOf_lt_succ (lt.trans_le far_le)).trans_le (startOf_mono lt)

theorem startOf_le_length (place : Nat) : route.startOf place ≤ route.length.toNat := by
  rw [← startOf_length]
  rcases Nat.le_total place route.sections.length with inside | beyond
  · exact startOf_mono inside
  · rw [startOf, startOf, List.take_of_length_le beyond, List.take_length]

/-- The sections counted begin where the test passes, and the next one does not. -/
theorem countStarts_spec (passes : Nat → Bool) (start : Nat) (sections : List Section) :
    (∀ place < countStarts passes start sections,
        passes (start + totalLength (sections.take place)) = true) ∧
      (countStarts passes start sections < sections.length →
        passes (start + totalLength (sections.take (countStarts passes start sections))) =
          false) := by
  induction sections generalizing start with
  | nil => simp [countStarts]
  | cons first rest ih =>
    obtain ⟨passed, stopped⟩ := ih (start + first.length.toNat)
    unfold countStarts
    split
    · next starts =>
      rw [Nat.add_comm 1]
      constructor
      · rintro (_ | place) place_lt
        · exact starts
        · rw [List.take_succ_cons, totalLength, ← Nat.add_assoc]
          exact passed place (Nat.lt_of_succ_lt_succ place_lt)
      · intro fewer
        rw [List.take_succ_cons, totalLength, ← Nat.add_assoc]
        exact stopped (Nat.lt_of_succ_lt_succ fewer)
    · next not_starts => exact ⟨by simp, fun _ => Bool.not_eq_true _ ▸ not_starts⟩

theorem placeAt_forward_bounds (position : UInt32) :
    route.startOf (route.placeAt position .forward) ≤ position.toNat ∧
      (route.placeAt position .forward + 1 < route.sections.length →
        position.toNat < route.startOf (route.placeAt position .forward + 1)) := by
  obtain ⟨passed, stopped⟩ :=
    countStarts_spec (fun start => start ≤ position.toNat) 0 route.sections
  simp only [Nat.zero_add, decide_eq_true_eq, decide_eq_false_iff_not, not_le] at passed stopped
  have place_eq : route.placeAt position .forward =
      countStarts (fun start => start ≤ position.toNat) 0 route.sections - 1 := rfl
  rcases Nat.eq_zero_or_pos (countStarts (fun start => start ≤ position.toNat) 0 route.sections)
    with none | some
  -- The first section begins at zero, so it always counts.
  · rw [none] at stopped
    exact absurd (stopped route.sections_length_pos) (Nat.not_lt_zero _)
  · have next_eq : route.placeAt position .forward + 1 =
        countStarts (fun start => start ≤ position.toNat) 0 route.sections := by omega
    rw [next_eq]
    exact ⟨passed _ (by omega), stopped⟩

theorem placeAt_backward_bounds {position : UInt32} (inside : position ≤ route.length) :
    (0 < route.placeAt position .backward →
        route.startOf (route.placeAt position .backward) < position.toNat) ∧
      position.toNat ≤ route.startOf (route.placeAt position .backward + 1) := by
  rw [UInt32.le_iff_toNat_le, ← startOf_length] at inside
  obtain ⟨passed, stopped⟩ :=
    countStarts_spec (fun start => start < position.toNat) 0 route.sections
  have count_le := countStarts_le (fun start => start < position.toNat) 0 route.sections
  simp only [Nat.zero_add, decide_eq_true_eq, decide_eq_false_iff_not, not_lt] at passed stopped
  have place_eq : route.placeAt position .backward =
      countStarts (fun start => start < position.toNat) 0 route.sections - 1 := rfl
  rcases Nat.eq_zero_or_pos (countStarts (fun start => start < position.toNat) 0 route.sections)
    with none | some
  -- Only a head at the start of the route counts no section.
  · rw [none] at stopped
    have before := (stopped route.sections_length_pos).trans (Nat.zero_le (route.startOf 1))
    rw [place_eq, none]
    exact ⟨fun counted => absurd counted (Nat.lt_irrefl 0), before⟩
  · have next_eq : route.placeAt position .backward + 1 =
        countStarts (fun start => start < position.toNat) 0 route.sections := by omega
    rw [next_eq]
    refine ⟨fun _ => passed _ (by omega), ?_⟩
    rcases Nat.lt_or_ge (countStarts (fun start => start < position.toNat) 0 route.sections)
      route.sections.length with fewer | all
    · exact stopped fewer
    · rwa [Nat.le_antisymm count_le all]

/-- The place that lies between its bounds is the one that is found. -/
theorem placeAt_forward_eq {position : UInt32} {place : Nat}
    (place_lt : place < route.sections.length) (entered : route.startOf place ≤ position.toNat)
    (not_left : place + 1 < route.sections.length → position.toNat < route.startOf (place + 1)) :
    route.placeAt position .forward = place := by
  have found_lt := route.placeAt_lt position .forward
  obtain ⟨found_entered, found_not_left⟩ := route.placeAt_forward_bounds position
  rcases Nat.lt_trichotomy (route.placeAt position .forward) place with before | same | behind
  · have left := route.startOf_mono (Nat.add_one_le_of_lt before)
    have not_left := found_not_left (by omega)
    omega
  · exact same
  · have left := route.startOf_mono (Nat.add_one_le_of_lt behind)
    have not_left := not_left (by omega)
    omega

theorem placeAt_backward_eq {position : UInt32} {place : Nat} (inside : position ≤ route.length)
    (not_left : 0 < place → route.startOf place < position.toNat)
    (entered : position.toNat ≤ route.startOf (place + 1)) :
    route.placeAt position .backward = place := by
  obtain ⟨found_not_left, found_entered⟩ := route.placeAt_backward_bounds inside
  rcases Nat.lt_trichotomy (route.placeAt position .backward) place with before | same | behind
  · have left := route.startOf_mono (Nat.add_one_le_of_lt before)
    have not_left := not_left (by omega)
    omega
  · exact same
  · have left := route.startOf_mono (Nat.add_one_le_of_lt behind)
    have not_left := found_not_left (by omega)
    omega

/-- Whether a position belongs to the section at a place, for a head that runs in a direction. -/
def Covers (route : Route) (place : Nat) (position : UInt32) : Direction → Prop
  | .forward => route.startOf place ≤ position.toNat ∧ position.toNat < route.startOf (place + 1)
  | .backward => route.startOf place < position.toNat ∧ position.toNat ≤ route.startOf (place + 1)

/-- The place of the section that is entered last. -/
def lastPlace (route : Route) : Direction → Nat
  | .forward => route.sections.length - 1
  | .backward => 0

/-- A head stands on the section to which its position belongs. -/
theorem placeAt_eq_of_covers {position : UInt32} (inside : position ≤ route.length)
    {direction : Direction} {place : Nat} (place_lt : place < route.sections.length)
    (covers : route.Covers place position direction) : route.placeAt position direction = place := by
  cases direction with
  | forward => exact placeAt_forward_eq place_lt covers.1 fun _ => covers.2
  | backward => exact placeAt_backward_eq inside (fun _ => covers.1) covers.2

/-- The position of a head short of the end belongs to the section on which it stands. -/
theorem covers_placeAt {position : UInt32} (inside : position ≤ route.length)
    {direction : Direction} (short : position ≠ route.endPosition direction) :
    route.Covers (route.placeAt position direction) position direction := by
  have place_lt := route.placeAt_lt position direction
  have inside_toNat := UInt32.le_iff_toNat_le.mp inside
  cases direction with
  | forward =>
    obtain ⟨entered, not_left⟩ := route.placeAt_forward_bounds position
    have apart : position.toNat ≠ route.length.toNat := fun same => short (UInt32.toNat_inj.mp same)
    refine ⟨entered, ?_⟩
    rcases Nat.lt_or_ge (route.placeAt position .forward + 1) route.sections.length with
      before | last
    · exact not_left before
    · have last_eq : route.placeAt position .forward + 1 = route.sections.length := by omega
      rw [last_eq, startOf_length]
      omega
  | backward =>
    obtain ⟨not_left, entered⟩ := route.placeAt_backward_bounds inside
    have apart : position.toNat ≠ 0 := fun same => short (UInt32.toNat_inj.mp same)
    refine ⟨?_, entered⟩
    rcases Nat.eq_zero_or_pos (route.placeAt position .backward) with last | before
    · rw [last, startOf_zero]
      omega
    · exact not_left before

/-- A head at the end stands on the section that it entered last. -/
theorem placeAt_endPosition (direction : Direction) :
    route.placeAt (route.endPosition direction) direction = route.lastPlace direction := by
  cases direction with
  | forward =>
    apply placeAt_forward_eq
    · have nonempty := route.sections_length_pos
      simp only [lastPlace]
      omega
    · exact startOf_le_length _
    · simp only [lastPlace]
      omega
  | backward =>
    exact placeAt_backward_eq (route.endPosition_le .backward)
      (fun before => absurd before (Nat.lt_irrefl 0)) (Nat.zero_le _)

theorem getElem?_limitsFrom (distance : UInt32) (sections : List Section) (index : Nat) :
    (limitsFrom distance sections)[index]? = sections[index]?.map fun stretch =>
      ⟨distance + .ofNat (totalLength (sections.take index)), stretch.maxSpeed⟩ := by
  induction sections generalizing distance index with
  | nil => rfl
  | cons first rest ih =>
    cases index with
    | zero => simp [limitsFrom, totalLength]
    | succ index =>
      rw [limitsFrom, List.getElem?_cons_succ, List.getElem?_cons_succ, ih, List.take_succ_cons,
        totalLength, UInt32.ofNat_add, UInt32.ofNat_toNat, UInt32.add_assoc]

theorem length_limitsFrom (distance : UInt32) (sections : List Section) :
    (limitsFrom distance sections).length = sections.length := by
  induction sections generalizing distance with
  | nil => rfl
  | cons first rest ih => rw [limitsFrom, List.length_cons, ih, List.length_cons]

/-- The limits ahead without the end of the route. -/
def pointsAhead (route : Route) (position : UInt32) (direction : Direction) : List LimitPoint :=
  let place := route.placeAt position direction
  limitsFrom (route.stepsToBoundary position place direction) (route.sectionsAhead place direction)

theorem limitsAhead_eq (position : UInt32) (direction : Direction) :
    route.limitsAhead position direction =
      route.pointsAhead position direction ++ [⟨route.stepsToEnd position direction, 0⟩] := rfl

theorem startOf_add (place further : Nat) :
    route.startOf (place + further) =
      route.startOf place + totalLength ((route.sections.drop place).take further) := by
  rw [startOf, startOf, List.take_add, totalLength_append]

theorem startOf_lt_word (place : Nat) : route.startOf place < 4294967296 :=
  (startOf_le_length place).trans_lt (by rw [toNat_length]; exact route.length_lt)

/-- Running forward, the limits ahead are those of the sections behind the one under the head. -/
theorem getElem?_pointsAhead_forward (position : UInt32) (index : Nat) :
    (route.pointsAhead position .forward)[index]? =
      route.sections[route.placeAt position .forward + 1 + index]?.map fun stretch =>
        ⟨.ofNat (route.startOf (route.placeAt position .forward + 1 + index) - position.toNat),
          stretch.maxSpeed⟩ := by
  obtain ⟨place, place_eq⟩ : ∃ place, route.placeAt position .forward = place := ⟨_, rfl⟩
  have bounds := (route.placeAt_forward_bounds position).2
  rw [place_eq] at bounds ⊢
  have points_eq : route.pointsAhead position .forward =
      limitsFrom (.ofNat (route.startOf (place + 1)) - position)
        (route.sections.drop (place + 1)) := by
    rw [← place_eq]
    rfl
  rw [points_eq, getElem?_limitsFrom, List.getElem?_drop]
  apply Option.map_congr
  intro stretch found
  have found_lt := (List.getElem?_eq_some_iff.mp found).1
  have ahead := bounds (by omega)
  have start_lt := route.startOf_lt_word (place + 1 + index)
  have start_eq := route.startOf_add (place + 1) index
  refine congrArg (LimitPoint.mk · stretch.maxSpeed) (UInt32.toNat_inj.mp ?_)
  rw [UInt32.toNat_add, UInt32.toNat_sub_of_le]
  · simp only [UInt32.toNat_ofNat', Nat.reducePow]
    omega
  · rw [UInt32.le_iff_toNat_le, UInt32.toNat_ofNat']
    omega

/-- Running backward, they are those of the sections before it, last one first. -/
theorem getElem?_pointsAhead_backward {position : UInt32} (inside : position ≤ route.length)
    {index : Nat} (index_lt : index < route.placeAt position .backward) :
    (route.pointsAhead position .backward)[index]? =
      route.sections[route.placeAt position .backward - 1 - index]?.map fun stretch =>
        ⟨.ofNat (position.toNat - route.startOf (route.placeAt position .backward - index)),
          stretch.maxSpeed⟩ := by
  have place_lt := route.placeAt_lt position .backward
  obtain ⟨place, place_eq⟩ : ∃ place, route.placeAt position .backward = place := ⟨_, rfl⟩
  have bounds := (route.placeAt_backward_bounds inside).1
  rw [place_eq] at bounds index_lt place_lt ⊢
  have points_eq : route.pointsAhead position .backward =
      limitsFrom (position - .ofNat (route.startOf place)) (route.sections.take place).reverse := by
    rw [← place_eq]
    rfl
  have taken : (route.sections.take place).length = place := List.length_take_of_le place_lt.le
  rw [points_eq, getElem?_limitsFrom, List.getElem?_reverse (by omega), taken,
    List.getElem?_take_of_lt (by omega)]
  apply Option.map_congr
  intro stretch found
  have ahead := bounds (by omega)
  have start_lt := route.startOf_lt_word place
  have start_eq := route.startOf_add (place - index) index
  -- The sections between the boundary and the entry are the same, in the other order.
  have passed_eq : (route.sections.take place).reverse.take index =
      ((route.sections.drop (place - index)).take index).reverse := by
    rw [List.take_reverse, taken, List.drop_take, Nat.sub_sub_self (by omega)]
  rw [Nat.sub_add_cancel (by omega)] at start_eq
  refine congrArg (LimitPoint.mk · stretch.maxSpeed) (UInt32.toNat_inj.mp ?_)
  rw [UInt32.toNat_add, UInt32.toNat_sub_of_le, passed_eq, totalLength_reverse]
  · simp only [UInt32.toNat_ofNat', Nat.reducePow]
    omega
  · rw [UInt32.le_iff_toNat_le, UInt32.toNat_ofNat']
    omega

theorem length_pointsAhead_backward (position : UInt32) :
    (route.pointsAhead position .backward).length = route.placeAt position .backward := by
  rw [pointsAhead, length_limitsFrom, sectionsAhead, List.length_reverse,
    List.length_take_of_le (route.placeAt_lt position .backward).le]

/-- Where a head that runs in a direction enters the section at a place. -/
def entryOf (route : Route) (place : Nat) : Direction → Nat
  | .forward => route.startOf place
  | .backward => route.startOf (place + 1)

end Route

namespace Direction

/-- The second position is so many steps ahead of the first one. -/
def Reaches : Direction → Nat → Nat → Nat → Prop
  | forward, first, steps, second => first + steps = second
  | backward, first, steps, second => second + steps = first

/-- The place of the section that comes so many sections after the one at a place. -/
def onward : Direction → Nat → Nat → Nat
  | forward, place, count => place + count
  | backward, place, count => place - count

/-- The section at the second place comes right after the one at the first. -/
def Precedes : Direction → Nat → Nat → Prop
  | forward, first, second => first + 1 = second
  | backward, first, second => second + 1 = first

end Direction

namespace Route

variable {route : Route} {position : UInt32} {direction : Direction} {place : Nat}
  {stretch : Section}

/-- Each limit ahead starts at the entry to a section, in travel order. -/
theorem reaches_of_getElem?_pointsAhead (inside : position ≤ route.length) {index : Nat}
    {point : LimitPoint} (found : (route.pointsAhead position direction)[index]? = some point) :
    ∃ stretch,
      route.sections[direction.onward (route.placeAt position direction) (index + 1)]? =
        some stretch ∧
      stretch.maxSpeed = point.kmh ∧ 0 < point.steps.toNat ∧
      direction.Reaches position.toNat point.steps.toNat
        (route.entryOf (direction.onward (route.placeAt position direction) (index + 1))
          direction) := by
  cases direction with
  | forward =>
    rw [getElem?_pointsAhead_forward, Option.map_eq_some_iff] at found
    obtain ⟨stretch, stretch_found, rfl⟩ := found
    have place_lt := (List.getElem?_eq_some_iff.mp stretch_found).1
    have before := (route.placeAt_forward_bounds position).2 (by omega)
    have starts_le := route.startOf_mono
      (by omega : route.placeAt position .forward + 1 ≤ route.placeAt position .forward + 1 + index)
    have start_lt := route.startOf_lt_word (route.placeAt position .forward + 1 + index)
    have order : route.placeAt position .forward + 1 + index =
        route.placeAt position .forward + (index + 1) := by omega
    rw [order] at stretch_found starts_le start_lt ⊢
    refine ⟨stretch, stretch_found, rfl, ?_, ?_⟩
    · simp only [UInt32.toNat_ofNat', Nat.reducePow]
      omega
    · simp only [Direction.Reaches, Direction.onward, entryOf, UInt32.toNat_ofNat', Nat.reducePow]
      omega
  | backward =>
    have index_lt : index < route.placeAt position .backward := by
      have within := (List.getElem?_eq_some_iff.mp found).1
      rwa [length_pointsAhead_backward] at within
    rw [getElem?_pointsAhead_backward inside index_lt, Option.map_eq_some_iff] at found
    obtain ⟨stretch, stretch_found, rfl⟩ := found
    have before := (route.placeAt_backward_bounds inside).1 (by omega)
    have starts_le := route.startOf_mono
      (by omega : route.placeAt position .backward - index ≤ route.placeAt position .backward)
    have order : route.placeAt position .backward - 1 - index =
        route.placeAt position .backward - (index + 1) := by omega
    have next : route.placeAt position .backward - (index + 1) + 1 =
        route.placeAt position .backward - index := by omega
    have short := position.toNat_lt
    rw [order] at stretch_found
    refine ⟨stretch, stretch_found, rfl, ?_, ?_⟩
    · simp only [UInt32.toNat_ofNat', Nat.reducePow]
      omega
    · simp only [Direction.Reaches, Direction.onward, entryOf, next, UInt32.toNat_ofNat',
        Nat.reducePow]
      omega

/-- The entry to every section that lies ahead is among them. -/
theorem exists_mem_pointsAhead (inside : position ≤ route.length)
    (found : route.sections[place]? = some stretch) {steps : Nat} (steps_pos : 0 < steps)
    (reaches : direction.Reaches position.toNat steps (route.entryOf place direction)) :
    ∃ point ∈ route.pointsAhead position direction,
      point.steps.toNat = steps ∧ point.kmh = stretch.maxSpeed := by
  have place_lt := (List.getElem?_eq_some_iff.mp found).1
  cases direction with
  | forward =>
    simp only [Direction.Reaches, entryOf] at reaches
    have entered := (route.placeAt_forward_bounds position).1
    have behind : route.placeAt position .forward < place := by
      by_contra before
      have starts_le := route.startOf_mono (Nat.le_of_not_lt before)
      omega
    have start_lt := route.startOf_lt_word place
    have point_found := route.getElem?_pointsAhead_forward position
      (place - (route.placeAt position .forward + 1))
    rw [Nat.add_sub_cancel' behind, found] at point_found
    refine ⟨_, List.mem_of_getElem? point_found, ?_, rfl⟩
    simp only [UInt32.toNat_ofNat', Nat.reducePow]
    omega
  | backward =>
    simp only [Direction.Reaches, entryOf] at reaches
    have entered := (route.placeAt_backward_bounds inside).2
    have before : place < route.placeAt position .backward := by
      by_contra behind
      have starts_le := route.startOf_mono (Nat.add_le_add_right (Nat.le_of_not_lt behind) 1)
      omega
    have short := position.toNat_lt
    have point_found := route.getElem?_pointsAhead_backward inside
      (by omega : route.placeAt position .backward - 1 - place < route.placeAt position .backward)
    have order : route.placeAt position .backward - 1 -
        (route.placeAt position .backward - 1 - place) = place := by omega
    have next : route.placeAt position .backward -
        (route.placeAt position .backward - 1 - place) = place + 1 := by omega
    rw [order, next, found] at point_found
    refine ⟨_, List.mem_of_getElem? point_found, ?_, rfl⟩
    simp only [UInt32.toNat_ofNat', Nat.reducePow]
    omega

/-- A head that comes to the entry of a section stands on it, and a step before on the one that
precedes it. -/
theorem placeAt_advance_of_reaches (inside : position ≤ route.length)
    (place_lt : place < route.sections.length) {steps : UInt32} (steps_pos : 0 < steps.toNat)
    (reaches : direction.Reaches position.toNat steps.toNat (route.entryOf place direction)) :
    route.placeAt (route.advance position direction steps) direction = place ∧
      direction.Precedes (route.placeAt (route.advance position direction (steps - 1)) direction)
        place := by
  have one_le : (1 : UInt32) ≤ steps := UInt32.le_iff_toNat_le.mpr steps_pos
  have one_less : (steps - 1).toNat = steps.toNat - 1 := UInt32.toNat_sub_of_le _ _ one_le
  have next_le := (route.advance_leads inside direction steps).2
  have near_le := (route.advance_leads inside direction (steps - 1)).2
  have longer := route.startOf_lt_succ place_lt
  cases direction with
  | forward =>
    simp only [Direction.Reaches, entryOf] at reaches
    have on_route := route.startOf_le_length place
    have arrived := route.toNat_advance_forward position steps
    have close := route.toNat_advance_forward position (steps - 1)
    refine ⟨placeAt_forward_eq place_lt (by omega) fun _ => by omega, ?_⟩
    obtain ⟨previous, rfl⟩ : ∃ previous, place = previous + 1 := by
      apply Nat.exists_eq_succ_of_ne_zero
      rintro rfl
      rw [startOf_zero] at reaches
      omega
    have passed := route.startOf_lt_succ (by omega : previous < route.sections.length)
    exact congrArg (· + 1) (placeAt_forward_eq (by omega) (by omega) fun _ => by omega)
  | backward =>
    simp only [Direction.Reaches, entryOf] at reaches
    have arrived := route.toNat_advance_backward position steps
    have close := route.toNat_advance_backward position (steps - 1)
    refine ⟨placeAt_backward_eq next_le (fun _ => by omega) (by omega), ?_⟩
    have previous_lt : place + 1 < route.sections.length := by
      by_contra last
      have inside_toNat := UInt32.le_iff_toNat_le.mp inside
      have end_eq : place + 1 = route.sections.length := by omega
      rw [end_eq, startOf_length] at reaches
      omega
    have passed := route.startOf_lt_succ previous_lt
    exact (placeAt_backward_eq near_le (fun _ => by omega) (by omega)).symm

/-- What the limits ahead of a head tell, the end of the route apart. -/
structure Foresees (route : Route) (position : UInt32) (direction : Direction)
    (points : List LimitPoint) : Prop where
  /-- They come nearest first. -/
  ascending : points.Pairwise fun near far => near.steps.toNat < far.steps.toNat
  /-- Each starts ahead, at the entry to a section with that limit.  A head that comes there stands
  on that section, and a step before on the one that precedes it. -/
  entered : ∀ point ∈ points, 0 < point.steps.toNat ∧ ∃ place stretch,
    route.sections[place]? = some stretch ∧ stretch.maxSpeed = point.kmh ∧
      direction.Reaches position.toNat point.steps.toNat (route.entryOf place direction) ∧
      (route.sectionAt (route.advance position direction point.steps) direction).place = place ∧
      direction.Precedes
        (route.sectionAt (route.advance position direction (point.steps - 1)) direction).place place
  /-- The entry to every section that lies ahead is among them. -/
  complete : ∀ place stretch steps, route.sections[place]? = some stretch → 0 < steps →
    direction.Reaches position.toNat steps (route.entryOf place direction) →
      ∃ point ∈ points, point.steps.toNat = steps ∧ point.kmh = stretch.maxSpeed

/-- The further a section comes after the one under the head, the further ahead its entry. -/
theorem ascending_pointsAhead (inside : position ≤ route.length) :
    (route.pointsAhead position direction).Pairwise fun near far =>
      near.steps.toNat < far.steps.toNat := by
  rw [List.pairwise_iff_getElem]
  intro near far near_lt far_lt near_before
  obtain ⟨-, -, -, -, near_reaches⟩ :=
    reaches_of_getElem?_pointsAhead inside (List.getElem?_eq_getElem near_lt)
  obtain ⟨stretch, found, -, -, far_reaches⟩ :=
    reaches_of_getElem?_pointsAhead inside (List.getElem?_eq_getElem far_lt)
  have place_lt := route.placeAt_lt position direction
  have found_lt := (List.getElem?_eq_some_iff.mp found).1
  cases direction with
  | forward =>
    simp only [Direction.Reaches, Direction.onward, entryOf] at *
    have entries := route.startOf_lt (by omega : route.placeAt position .forward + (near + 1) <
      route.placeAt position .forward + (far + 1)) found_lt.le
    omega
  | backward =>
    rw [length_pointsAhead_backward] at far_lt
    simp only [Direction.Reaches, Direction.onward, entryOf] at *
    have entries := route.startOf_lt
      (by omega : route.placeAt position .backward - (far + 1) + 1 <
        route.placeAt position .backward - (near + 1) + 1) (by omega)
    omega

theorem foresees_pointsAhead (inside : position ≤ route.length) (direction : Direction) :
    route.Foresees position direction (route.pointsAhead position direction) where
  ascending := ascending_pointsAhead inside
  entered := by
    intro point point_mem
    obtain ⟨index, found⟩ := List.mem_iff_getElem?.mp point_mem
    obtain ⟨stretch, stretch_found, limit_eq, steps_pos, reaches⟩ :=
      reaches_of_getElem?_pointsAhead inside found
    have place_lt := (List.getElem?_eq_some_iff.mp stretch_found).1
    refine ⟨steps_pos, _, stretch, stretch_found, limit_eq, reaches, ?_⟩
    rw [place_sectionAt, place_sectionAt]
    exact placeAt_advance_of_reaches inside place_lt steps_pos reaches
  complete _ _ _ found steps_pos reaches := exists_mem_pointsAhead inside found steps_pos reaches

/-- The steps to the end lead to where the route ends. -/
theorem reaches_endPosition (inside : position ≤ route.length) (direction : Direction) :
    direction.Reaches position.toNat (route.stepsToEnd position direction).toNat
      (route.endPosition direction).toNat := by
  have here_eq : min position route.length = position := if_pos inside
  cases direction with
  | forward =>
    have remaining : (route.length - position).toNat = route.length.toNat - position.toNat :=
      UInt32.toNat_sub_of_le _ _ inside
    rw [UInt32.le_iff_toNat_le] at inside
    simp only [Direction.Reaches, stepsToEnd, endPosition, here_eq, remaining]
    omega
  | backward =>
    simp only [Direction.Reaches, stepsToEnd, endPosition, here_eq]
    exact Nat.zero_add _

theorem firstFault_eq_none {start place : Nat} {sections : List Section}
    (passable : ∀ stretch ∈ sections, 0 < stretch.length ∧ 0 < stretch.maxSpeed)
    (short : start + totalLength sections < 4294967296) :
    firstFault start place sections = none := by
  induction sections generalizing start place with
  | nil => rfl
  | cons first rest ih =>
    obtain ⟨length_pos, limit_pos⟩ := passable first List.mem_cons_self
    rw [totalLength, ← Nat.add_assoc] at short
    rw [firstFault, if_neg (UInt32.ne_of_lt length_pos).symm, if_neg (Int32.not_le.mpr limit_pos),
      if_neg (by omega)]
    exact ih (fun stretch stretch_mem => passable stretch (List.mem_cons_of_mem _ stretch_mem)) short

/-- Every route is made from its sections, and no other is. -/
theorem ofSections_eq_ok_iff {sections : List Section} :
    ofSections sections = .ok route ↔ route.sections = sections := by
  constructor
  · intro accepted
    unfold ofSections at accepted
    split at accepted
    · contradiction
    · split at accepted
      · contradiction
      · rw [← Except.ok.inj accepted]
  · rintro rfl
    have short : 0 + totalLength route.sections < 4294967296 := by
      rw [Nat.zero_add]
      exact route.length_lt
    have no_fault : firstFault 0 0 route.sections = none := firstFault_eq_none route.passable short
    unfold ofSections
    rw [dif_neg route.nonempty]
    split
    · next fault => rw [fault] at no_fault; contradiction
    · rfl

theorem exists_ofSections_iff {sections : List Section} :
    (∃ route, ofSections sections = .ok route) ↔
      sections ≠ [] ∧ (∀ stretch ∈ sections, 0 < stretch.length ∧ 0 < stretch.maxSpeed) ∧
        totalLength sections < 4294967296 := by
  constructor
  · rintro ⟨route, accepted⟩
    obtain rfl := ofSections_eq_ok_iff.mp accepted
    exact ⟨route.nonempty, route.passable, route.length_lt⟩
  · rintro ⟨nonempty, passable, short⟩
    exact ⟨⟨sections, nonempty, passable, short⟩, ofSections_eq_ok_iff.mpr rfl⟩

/-- A list of sections is a route just if there are some, all have a length and a positive speed
limit, and their total length fits 32 bits.  On every route a head stands on the one section to which
its position belongs, or at the end on the section that it entered last.  The limits ahead are the
entries to all sections ahead, nearest first, and then the end; no distance to one wraps round. -/
theorem lookup_exact (sections : List Section) :
    ((∃ route, ofSections sections = .ok route) ↔
      sections ≠ [] ∧ (∀ stretch ∈ sections, 0 < stretch.length ∧ 0 < stretch.maxSpeed) ∧
        totalLength sections < 4294967296) ∧
    ∀ route, ofSections sections = .ok route →
      route.sections = sections ∧ route.length.toNat = totalLength sections ∧
      ∀ position ≤ route.length, ∀ direction,
        (route.sectionAt position direction).place < sections.length ∧
        (position ≠ route.endPosition direction → ∀ place < sections.length,
          route.Covers place position direction ↔
            (route.sectionAt position direction).place = place) ∧
        (position = route.endPosition direction →
          (route.sectionAt position direction).place = route.lastPlace direction) ∧
        ∃ points, route.limitsAhead position direction =
            points ++ [⟨route.stepsToEnd position direction, 0⟩] ∧
          route.Foresees position direction points ∧
          direction.Reaches position.toNat (route.stepsToEnd position direction).toNat
            (route.endPosition direction).toNat := by
  refine ⟨exists_ofSections_iff, fun route accepted => ?_⟩
  obtain rfl := ofSections_eq_ok_iff.mp accepted
  refine ⟨rfl, route.toNat_length, fun position inside direction => ?_⟩
  rw [place_sectionAt]
  refine ⟨route.placeAt_lt position direction, fun short place place_lt => ⟨?_, ?_⟩, ?_,
    route.pointsAhead position direction, limitsAhead_eq position direction,
    foresees_pointsAhead inside direction, reaches_endPosition inside direction⟩
  · exact placeAt_eq_of_covers inside place_lt
  · rintro rfl
    exact covers_placeAt inside short
  · rintro rfl
    exact placeAt_endPosition direction

/-- A bend between two straights. -/
def bend : List Section := [⟨.track, 3, 60, 0, false⟩, ⟨.track, 1, 40, 0, false⟩,
  ⟨.track, 5, 80, 0, false⟩]

/-- A head that runs backward from where the bend ends forward stands on the bend, with the limit of
the first straight one step ahead. -/
theorem bend_looked_up :
    ∃ route, ofSections bend = .ok route ∧ (route.sectionAt 4 .backward).place = 1 ∧
      ∃ point ∈ route.limitsAhead 4 .backward, point.steps.toNat = 1 ∧ point.kmh = 60 := by
  obtain ⟨accepts, found⟩ := lookup_exact bend
  obtain ⟨route, accepted⟩ := accepts.mpr ⟨by decide, by decide, by decide⟩
  obtain ⟨sections_eq, length_eq, heads⟩ := found route accepted
  have inside : (4 : UInt32) ≤ route.length := by
    rw [UInt32.le_iff_toNat_le, length_eq]
    decide
  have short : (4 : UInt32) ≠ route.endPosition .backward := (by decide : (4 : UInt32) ≠ 0)
  have covers : route.Covers 1 4 .backward := by
    simp only [Covers, startOf, sections_eq]
    decide
  obtain ⟨-, stands, -, points, points_eq, foresees, -⟩ := heads 4 inside .backward
  have first_found : route.sections[0]? = some ⟨.track, 3, 60, 0, false⟩ := by
    rw [sections_eq]
    rfl
  have entry : Direction.backward.Reaches 4 1 (route.entryOf 0 .backward) := by
    simp only [Direction.Reaches, entryOf, startOf, sections_eq]
    decide
  obtain ⟨point, point_mem, ahead⟩ := foresees.complete 0 _ 1 first_found (by decide) entry
  refine ⟨route, accepted, (stands short 1 (by decide)).mp covers, point, ?_, ahead⟩
  rw [points_eq]
  exact List.mem_append_left _ point_mem

end Route

end Haulage
