import Haulage.Proofs.Geometry

/-!
# Routes in travel order

A convoy that runs backward meets the sections in reverse.  Seen in travel order, a head that is
short of the end stands on the section that it has entered and not yet left, and what it has ahead
are the boundaries of the sections behind that one.
-/

namespace Haulage

theorem totalLength_reverse (sections : List Section) :
    totalLength sections.reverse = totalLength sections := by
  induction sections with
  | nil => rfl
  | cons first rest ih =>
    rw [List.reverse_cons, totalLength_append, ih]
    simp only [totalLength]
    omega

namespace Route

/-- The sections in the order in which a convoy meets them. -/
def travel (route : Route) : Direction → List Section
  | .forward => route.sections
  | .backward => route.sections.reverse

/-- Steps from where a convoy that runs in a direction started to a position. -/
def gone (route : Route) (position : UInt32) : Direction → Nat
  | .forward => position.toNat
  | .backward => totalLength route.sections - position.toNat

theorem totalLength_travel (route : Route) (direction : Direction) :
    totalLength (route.travel direction) = totalLength route.sections := by
  cases direction with
  | forward => rfl
  | backward => exact totalLength_reverse _

theorem mem_travel {route : Route} {direction : Direction} {stretch : Section} :
    stretch ∈ route.travel direction ↔ stretch ∈ route.sections := by
  cases direction with
  | forward => exact Iff.rfl
  | backward => exact List.mem_reverse

/-- The count of starts that pass ends within the section where they stop passing. -/
theorem countStarts_split (passes : Nat → Bool) (start : Nat) (sections : List Section)
    (starts : passes start = true) (ends : passes (start + totalLength sections) = false) :
    ∃ passed here ahead, sections = passed ++ here :: ahead ∧
      countStarts passes start sections = passed.length + 1 ∧
      passes (start + totalLength passed) = true ∧
      passes (start + totalLength passed + here.length.toNat) = false := by
  induction sections generalizing start with
  | nil =>
    rw [totalLength, Nat.add_zero, starts] at ends
    contradiction
  | cons first rest ih =>
    rw [totalLength, ← Nat.add_assoc] at ends
    rw [countStarts, if_pos starts]
    by_cases further : passes (start + first.length.toNat) = true
    · obtain ⟨passed, here, ahead, rfl, count_eq, entered, left⟩ := ih _ further ends
      refine ⟨first :: passed, here, ahead, rfl, ?_, ?_, ?_⟩
      · rw [count_eq, List.length_cons]
        omega
      · rw [totalLength, ← Nat.add_assoc]
        exact entered
      · rw [totalLength, ← Nat.add_assoc]
        exact left
    · rw [Bool.not_eq_true] at further
      refine ⟨[], first, rest, rfl, ?_, starts, further⟩
      cases rest with
      | nil => rfl
      | cons second rest =>
        rw [countStarts, if_neg (by rw [further]; exact Bool.false_ne_true)]
        rfl

/-- Where a head stands in travel order, and what it has ahead. -/
structure Standing (route : Route) (position : UInt32) (direction : Direction)
    (passed : List Section) (here : Section) (ahead : List Section) (start finish : UInt32) :
    Prop where
  /-- The route in travel order. -/
  travel_eq : route.travel direction = passed ++ here :: ahead
  /-- The head has entered its section. -/
  entered : totalLength passed ≤ route.gone position direction
  /-- It has not left it. -/
  not_left : route.gone position direction < totalLength passed + here.length.toNat
  /-- It is the section under the head. -/
  under : route.get? (route.sectionAt position direction) = some here
  /-- The limits ahead are those of the sections behind it, and the end. -/
  limits_eq : route.limitsAhead position direction =
    limitsFrom start ahead ++ [⟨finish, 0⟩]
  /-- Steps to the next boundary. -/
  start_eq : start.toNat = totalLength passed + here.length.toNat - route.gone position direction
  /-- Steps to the end. -/
  finish_eq : finish.toNat = totalLength route.sections - route.gone position direction

variable {route : Route} {position : UInt32}

theorem get?_sectionAt_of_place {direction : Direction} {passed ahead : List Section}
    {here : Section} (sections_eq : route.sections = passed ++ here :: ahead)
    (place_eq : route.placeAt position direction = passed.length) :
    route.get? (route.sectionAt position direction) = some here := by
  rw [get?, place_sectionAt, place_eq, sections_eq, List.getElem?_append_right le_rfl,
    Nat.sub_self]
  rfl

theorem standing_forward (short : position.toNat < totalLength route.sections) :
    ∃ passed here ahead start finish,
      route.Standing position .forward passed here ahead start finish := by
  have length_lt := route.length_lt
  obtain ⟨passed, here, ahead, sections_eq, count_eq, entered, left⟩ :=
    countStarts_split (fun start => start ≤ position.toNat) 0 route.sections (by simp)
      (by simpa using short)
  have place_eq : route.placeAt position .forward = passed.length := by
    simp only [placeAt, count_eq]
    omega
  have lengths : totalLength route.sections =
      totalLength passed + here.length.toNat + totalLength ahead := by
    rw [sections_eq, totalLength_append, totalLength]
    omega
  simp only [Nat.zero_add, decide_eq_true_eq, decide_eq_false_iff_not, not_le] at entered left
  have taken : totalLength (route.sections.take (passed.length + 1)) =
      totalLength passed + here.length.toNat := by
    rw [sections_eq, List.take_append, List.take_of_length_le (by omega), totalLength_append]
    simp [totalLength]
  have dropped : route.sections.drop (passed.length + 1) = ahead := by
    rw [sections_eq, List.drop_append, List.drop_of_length_le (by omega)]
    simp
  have inside : position ≤ route.length := by
    rw [UInt32.le_iff_toNat_le, toNat_length]
    omega
  have here_eq : min position route.length = position := if_pos inside
  refine ⟨passed, here, ahead, route.stepsToBoundary position passed.length .forward,
    route.stepsToEnd position .forward, sections_eq, entered, left,
    get?_sectionAt_of_place sections_eq place_eq, ?_, ?_, ?_⟩
  · rw [limitsAhead]
    simp only [place_eq, sectionsAhead, dropped]
  · simp only [stepsToBoundary, taken, gone]
    rw [UInt32.toNat_sub_of_le _ _ (by rw [UInt32.le_iff_toNat_le, UInt32.toNat_ofNat']; omega),
      UInt32.toNat_ofNat']
    omega
  · simp only [stepsToEnd, here_eq, gone]
    rw [UInt32.toNat_sub_of_le _ _ inside, toNat_length]

theorem standing_backward (started : 0 < position.toNat)
    (inside : position.toNat ≤ totalLength route.sections) :
    ∃ passed here ahead start finish,
      route.Standing position .backward passed here ahead start finish := by
  have length_lt := route.length_lt
  obtain ⟨behind, here, front, sections_eq, count_eq, entered, left⟩ :=
    countStarts_split (fun start => start < position.toNat) 0 route.sections
      (by simpa using started) (by simpa using inside)
  have place_eq : route.placeAt position .backward = behind.length := by
    simp only [placeAt, count_eq]
    omega
  have lengths : totalLength route.sections =
      totalLength behind + here.length.toNat + totalLength front := by
    rw [sections_eq, totalLength_append, totalLength]
    omega
  simp only [Nat.zero_add, decide_eq_true_eq, decide_eq_false_iff_not, not_lt] at entered left
  have taken : route.sections.take behind.length = behind := by
    rw [sections_eq, List.take_left]
  have inside_length : position ≤ route.length := by
    rw [UInt32.le_iff_toNat_le, toNat_length]
    omega
  have here_eq : min position route.length = position := if_pos inside_length
  have travel_eq : route.travel .backward = front.reverse ++ here :: behind.reverse := by
    rw [travel, sections_eq, List.reverse_append, List.reverse_cons, List.append_assoc]
    rfl
  refine ⟨front.reverse, here, behind.reverse,
    route.stepsToBoundary position behind.length .backward, route.stepsToEnd position .backward,
    travel_eq, ?_, ?_,
    get?_sectionAt_of_place sections_eq place_eq, ?_, ?_, ?_⟩
  · rw [totalLength_reverse, gone]
    omega
  · rw [totalLength_reverse, gone]
    omega
  · rw [limitsAhead]
    simp only [place_eq, sectionsAhead, taken]
  · simp only [stepsToBoundary, taken, gone, totalLength_reverse]
    rw [UInt32.toNat_sub_of_le _ _ (by rw [UInt32.le_iff_toNat_le, UInt32.toNat_ofNat']; omega),
      UInt32.toNat_ofNat']
    omega
  · simp only [stepsToEnd, here_eq, gone]
    omega

/-- A head short of the end stands on a section. -/
theorem standing_of_short (inside : position ≤ route.length) {direction : Direction}
    (short : position ≠ route.endPosition direction) :
    ∃ passed here ahead start finish,
      route.Standing position direction passed here ahead start finish := by
  rw [UInt32.le_iff_toNat_le, toNat_length] at inside
  cases direction with
  | forward =>
    have apart : position.toNat ≠ totalLength route.sections := fun same =>
      short (UInt32.toNat_inj.mp (same.trans route.toNat_length.symm))
    exact standing_forward (by omega)
  | backward =>
    have apart : position.toNat ≠ 0 := fun same => short (UInt32.toNat_inj.mp same)
    exact standing_backward (by omega) inside

/-- A head that has advanced and is still short of the end has gone all its steps. -/
theorem gone_advance (inside : position ≤ route.length) {direction : Direction} {steps : UInt32}
    (short : route.advance position direction steps ≠ route.endPosition direction) :
    route.gone (route.advance position direction steps) direction =
      route.gone position direction + steps.toNat := by
  rw [UInt32.le_iff_toNat_le] at inside
  cases direction with
  | forward =>
    have advanced := route.toNat_advance_forward position steps
    have apart : (route.advance position .forward steps).toNat ≠ route.length.toNat :=
      fun same => short (UInt32.toNat_inj.mp same)
    simp only [gone]
    omega
  | backward =>
    have advanced := route.toNat_advance_backward position steps
    have apart : (route.advance position .backward steps).toNat ≠ 0 :=
      fun same => short (UInt32.toNat_inj.mp same)
    rw [toNat_length] at inside
    simp only [gone]
    omega

namespace Standing

variable {direction : Direction} {passed ahead front back : List Section} {here stretch : Section}
  {start finish : UInt32}

theorem finish_eq_start
    (standing : route.Standing position direction passed here ahead start finish) :
    finish.toNat = start.toNat + totalLength ahead := by
  have lengths := route.totalLength_travel direction
  have start_eq := standing.start_eq
  have finish_eq := standing.finish_eq
  have not_left := standing.not_left
  rw [standing.travel_eq, totalLength_append, totalLength] at lengths
  omega

/-- A section that the head has not left is the one under it or one ahead. -/
theorem here_or_ahead (standing : route.Standing position direction passed here ahead start finish)
    (travel_eq : route.travel direction = front ++ stretch :: back)
    (not_left : route.gone position direction < totalLength front + stretch.length.toNat) :
    (front = passed ∧ stretch = here ∧ back = ahead) ∨
      ∃ between, front = passed ++ here :: between ∧ ahead = between ++ stretch :: back := by
  have entered := standing.entered
  have same := standing.travel_eq.symm.trans travel_eq
  rcases List.append_eq_append_iff.mp same with
    ⟨rest, front_eq, rest_eq⟩ | ⟨rest, passed_eq, rest_eq⟩
  · cases rest with
    | nil =>
      obtain ⟨rfl, rfl⟩ := List.cons.inj rest_eq
      exact .inl ⟨by rw [front_eq, List.append_nil], rfl, rfl⟩
    | cons first between =>
      obtain ⟨rfl, ahead_eq⟩ := List.cons.inj rest_eq
      exact .inr ⟨between, front_eq, ahead_eq⟩
  · cases rest with
    | nil =>
      obtain ⟨rfl, rfl⟩ := List.cons.inj rest_eq
      exact .inl ⟨by rw [passed_eq, List.append_nil], rfl, rfl⟩
    | cons first between =>
      obtain ⟨rfl, -⟩ := List.cons.inj rest_eq
      rw [passed_eq, totalLength_append, totalLength] at entered
      omega

end Standing

end Route

end Haulage
