import Haulage.Route
import Mathlib.Tactic.Linarith

/-!
# Where things are on a route

Every head stands on a section of its route, the two ends of a route are apart, and a convoy that
advances comes nearer to the end it runs towards but not beyond it.
-/

namespace Haulage

theorem totalLength_append (first second : List Section) :
    totalLength (first ++ second) = totalLength first + totalLength second := by
  induction first with
  | nil => simp [totalLength]
  | cons stretch rest ih =>
    simp only [List.cons_append, totalLength, ih]
    omega

/-- Sections that all have a length are no more than their total length. -/
theorem length_le_totalLength {sections : List Section}
    (positive : ∀ stretch ∈ sections, 0 < stretch.length) :
    sections.length ≤ totalLength sections := by
  induction sections with
  | nil => exact Nat.zero_le _
  | cons stretch rest ih =>
    have first : 0 < stretch.length.toNat :=
      UInt32.lt_iff_toNat_lt.mp (positive stretch List.mem_cons_self)
    have rest_le := ih fun other other_mem => positive other (List.mem_cons_of_mem _ other_mem)
    simp only [List.length_cons, totalLength]
    omega

namespace Route

variable (route : Route)

theorem toNat_length : route.length.toNat = totalLength route.sections := by
  rw [length, UInt32.toNat_ofNat']
  exact Nat.mod_eq_of_lt route.length_lt

theorem sections_length_le : route.sections.length ≤ totalLength route.sections :=
  length_le_totalLength fun stretch stretch_mem => (route.passable stretch stretch_mem).1

theorem sections_length_pos : 0 < route.sections.length :=
  List.length_pos_iff.mpr route.nonempty

theorem length_pos : 0 < route.length.toNat := by
  rw [toNat_length]
  exact route.sections_length_pos.trans_le route.sections_length_le

/-- The two ends of a route are apart. -/
theorem endPosition_reversed_ne (direction : Direction) :
    route.endPosition direction ≠ route.endPosition direction.reversed := by
  have apart := route.length_pos
  intro same
  cases direction with
  | forward =>
    have length_eq : route.length = 0 := same
    rw [length_eq] at apart
    exact absurd apart (by decide)
  | backward =>
    have length_eq : (0 : UInt32) = route.length := same
    rw [← length_eq] at apart
    exact absurd apart (by decide)

theorem endPosition_le (direction : Direction) : route.endPosition direction ≤ route.length := by
  rw [UInt32.le_iff_toNat_le]
  cases direction with
  | forward => exact le_rfl
  | backward => exact Nat.zero_le _

theorem countStarts_le (passes : Nat → Bool) (start : Nat) (sections : List Section) :
    countStarts passes start sections ≤ sections.length := by
  induction sections generalizing start with
  | nil => exact le_rfl
  | cons stretch rest ih =>
    unfold countStarts
    split
    · have := ih (start + stretch.length.toNat)
      rw [List.length_cons]
      omega
    · exact Nat.zero_le _

theorem placeAt_lt (position : UInt32) (direction : Direction) :
    route.placeAt position direction < route.sections.length := by
  have nonempty := route.sections_length_pos
  cases direction with
  | forward =>
    have := countStarts_le (fun start => start ≤ position.toNat) 0 route.sections
    simp only [placeAt]
    omega
  | backward =>
    have := countStarts_le (fun start => start < position.toNat) 0 route.sections
    simp only [placeAt]
    omega

theorem place_sectionAt (position : UInt32) (direction : Direction) :
    (route.sectionAt position direction).place = route.placeAt position direction := by
  have inside := route.placeAt_lt position direction
  have few := route.sections_length_le
  have short := route.length_lt
  rw [sectionAt, SectionId.place, UInt32.toNat_ofNat']
  exact Nat.mod_eq_of_lt (by omega)

/-- Every head stands on a section. -/
theorem get?_sectionAt (position : UInt32) (direction : Direction) :
    route.get? (route.sectionAt position direction) =
      some (route.sections.get ⟨_, route.placeAt_lt position direction⟩) := by
  rw [get?, place_sectionAt]
  exact List.getElem?_eq_getElem _

end Route

namespace Direction

/-- The second position is not behind the first one for a convoy that runs in the direction. -/
def Leads : Direction → UInt32 → UInt32 → Prop
  | forward, first, second => first ≤ second
  | backward, first, second => second ≤ first

theorem Leads.refl (direction : Direction) (position : UInt32) :
    direction.Leads position position := by
  cases direction with
  | forward => exact UInt32.le_refl _
  | backward => exact UInt32.le_refl _

theorem Leads.trans {direction : Direction} {first second third : UInt32}
    (near : direction.Leads first second) (far : direction.Leads second third) :
    direction.Leads first third := by
  cases direction with
  | forward => exact UInt32.le_trans near far
  | backward => exact UInt32.le_trans far near

end Direction

namespace Route

variable (route : Route)

theorem toNat_advance_forward (position steps : UInt32) :
    (route.advance position .forward steps).toNat =
      min (position.toNat + steps.toNat) route.length.toNat := by
  have short := route.length.toNat_lt
  rw [advance, UInt32.toNat_ofNat']
  exact Nat.mod_eq_of_lt (by omega)

theorem toNat_advance_backward (position steps : UInt32) :
    (route.advance position .backward steps).toNat = position.toNat - steps.toNat := by
  have small := position.toNat_lt
  rw [advance, UInt32.toNat_ofNat']
  exact Nat.mod_eq_of_lt (by omega)

/-- Advancing leads on but not beyond the route. -/
theorem advance_leads {position : UInt32} (inside : position ≤ route.length)
    (direction : Direction) (steps : UInt32) :
    direction.Leads position (route.advance position direction steps) ∧
      route.advance position direction steps ≤ route.length := by
  rw [UInt32.le_iff_toNat_le] at inside
  cases direction with
  | forward =>
    have advanced := route.toNat_advance_forward position steps
    constructor
    · change position ≤ _
      rw [UInt32.le_iff_toNat_le]
      omega
    · rw [UInt32.le_iff_toNat_le]
      omega
  | backward =>
    have advanced := route.toNat_advance_backward position steps
    constructor
    · change _ ≤ position
      rw [UInt32.le_iff_toNat_le]
      omega
    · rw [UInt32.le_iff_toNat_le]
      omega

end Route

end Haulage
