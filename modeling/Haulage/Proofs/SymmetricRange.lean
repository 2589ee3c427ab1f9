import Haulage.Proofs.Curves
import Haulage.Proofs.Exactness
import Haulage.Proofs.RoundTrip

/-!
# Numbers in the symmetric range

Whatever is computed is in the symmetric range, where absolute value, negation and rounding up are
what they are for rational numbers.  Only a document can bring in the word `-2⁶³`, which is below
the range, and of all operations only absolute value and negation pass it on.
-/

namespace Haulage

open Codec (ofText? toText)

namespace Fixed

/-- The text is the document of this number, or of a record with this number in a field. -/
inductive Stored (text : String) : Fixed → Prop
  | number {number : Fixed} (read : ofText? text = some number) : Stored text number
  | clock {clock : Clock} (read : ofText? text = some clock) : Stored text clock.mapScale
  | drag {summary : AdverseSummary} (read : ofText? text = some summary) :
      Stored text summary.drag
  | rolling {summary : AdverseSummary} (read : ofText? text = some summary) :
      Stored text summary.rolling
  | braking {summary : AdverseSummary} (read : ofText? text = some summary) :
      Stored text summary.braking
  | across {weight : WeightSummary} (read : ofText? text = some weight) :
      Stored text weight.across
  | along {weight : WeightSummary} (read : ofText? text = some weight) : Stored text weight.along
  | request {request : MoveRequest} (read : ofText? text = some request) :
      Stored text request.mapScale
  | residue {state : MotionState} (read : ofText? text = some state) : Stored text state.residue

/-- The numbers that come from counts, whole numbers, fractions and documents by any operations. -/
inductive Made (documents : List String) : Fixed → Prop
  | stored {text : String} {a : Fixed} (given : text ∈ documents) (stored : Stored text a) :
      Made documents a
  | ofRaw (count : Int) : Made documents (.ofRaw count)
  | ofInt (n : Int) : Made documents (.ofInt n)
  | ratio (num den : Int) : Made documents (.ratio num den)
  | add {a b : Fixed} (left : Made documents a) (right : Made documents b) : Made documents (a + b)
  | sub {a b : Fixed} (left : Made documents a) (right : Made documents b) : Made documents (a - b)
  | mul {a b : Fixed} (left : Made documents a) (right : Made documents b) : Made documents (a * b)
  | div {a b : Fixed} (left : Made documents a) (right : Made documents b) : Made documents (a / b)
  | mulInt {a : Fixed} (n : Int) (left : Made documents a) : Made documents (a.mulInt n)
  | divInt {a : Fixed} (n : Int) (left : Made documents a) : Made documents (a.divInt n)
  | neg {a : Fixed} (made : Made documents a) : Made documents (-a)
  | abs {a : Fixed} (made : Made documents a) : Made documents a.abs
  | sqrt {a : Fixed} (made : Made documents a) : Made documents a.sqrt
  | sum {terms : List Fixed} (made : ∀ a ∈ terms, Made documents a) : Made documents (.sum terms)

/-- The number is in the symmetric range, and there the operations that cannot saturate are the
ones of rational numbers. -/
structure Symmetric (a : Fixed) : Prop where
  /-- The number is not below the range. -/
  least_le : least ≤ a
  /-- The absolute value is not negative. -/
  abs_nonneg : zero ≤ a.abs
  /-- The absolute value is exact. -/
  value_abs : a.abs.value = |a.value|
  /-- The negative is exact. -/
  value_neg : (-a).value = -a.value
  /-- The negative of the negative is the number. -/
  neg_neg : - -a = a
  /-- The smallest whole number that is not below the number. -/
  ceil_le_iff (n : Int) : a.ceil ≤ n ↔ a.value ≤ n
  /-- The whole m/s of the number, whichever way it points. -/
  speedIndex_eq : ((speedIndex a).toNat : Int) = min ⌊|a.value|⌋ 4294967295

section Computed

theorem least_le_saturate (count : Int) : least ≤ saturate count := by
  rw [le_def, raw_saturate]
  exact le_max_left _ _

theorem least_le_quotient (num den : Int) : least ≤ quotient num den := by
  by_cases den_eq : den = 0
  · subst den_eq
    rw [quotient_zero, endTowards]
    split
    · exact le_refl least
    split
    · decide
    · decide
  · rw [quotient_of_ne_zero num den_eq]
    exact least_le_saturate _

theorem neg_lowest {a : Fixed} (lowest : a.raw = lowestWord) : -a = a := dif_pos lowest

theorem least_le_neg {a : Fixed} (low : least ≤ a) : least ≤ -a := by
  rw [le_def, raw_neg low]
  have := a.raw_le_limit
  simp only [least, limit] at *
  omega

theorem raw_abs {a : Fixed} (low : least ≤ a) : a.abs.raw = |a.raw| := by
  rw [Fixed.abs]
  split
  · next negative => rw [raw_neg low, abs_of_neg negative]
  · next nonneg => rw [abs_of_nonneg (not_lt.mp nonneg)]

theorem least_le_abs {a : Fixed} (low : least ≤ a) : least ≤ a.abs := by
  rw [Fixed.abs]
  split
  · exact least_le_neg low
  · exact low

theorem abs_lowest {a : Fixed} (lowest : a.raw = lowestWord) : a.abs = a := by
  rw [Fixed.abs, neg_lowest lowest, ite_self]

theorem least_le_sqrt (a : Fixed) : least ≤ a.sqrt := by
  by_cases pos : 0 < a.raw
  · rw [sqrt_of_pos pos]
    exact least_le_saturate _
  · rw [Fixed.sqrt, if_pos (not_lt.mp pos)]
    decide

theorem least_le_sum (terms : List Fixed) : least ≤ sum terms := by
  rw [sum, ← List.foldr_reverse]
  cases terms.reverse with
  | nil => decide
  | cons a terms => exact least_le_saturate _

/-- What is made is in the range, or it is the word below the range and a document holds it:
negation and absolute value leave this word as it is, and everything else saturates. -/
theorem Made.least_le_or_stored {documents : List String} {a : Fixed} (made : Made documents a) :
    least ≤ a ∨ a.raw = lowestWord ∧ ∃ text ∈ documents, Stored text a := by
  induction made with
  | @stored text a given stored =>
    by_cases lowest : a.raw = lowestWord
    · exact .inr ⟨lowest, text, given, stored⟩
    · exact .inl (least_le_iff.mpr lowest)
  | ofRaw count => exact .inl (least_le_saturate _)
  | ofInt n => exact .inl (least_le_saturate _)
  | ratio num den => exact .inl (least_le_quotient _ _)
  | add => exact .inl (least_le_saturate _)
  | sub => exact .inl (least_le_saturate _)
  | mul => exact .inl (least_le_saturate _)
  | div => exact .inl (least_le_quotient _ _)
  | mulInt => exact .inl (least_le_saturate _)
  | divInt => exact .inl (least_le_quotient _ _)
  | neg _ ih =>
    rcases ih with low | ⟨lowest, held⟩
    · exact .inl (least_le_neg low)
    · rw [neg_lowest lowest]
      exact .inr ⟨lowest, held⟩
  | abs _ ih =>
    rcases ih with low | ⟨lowest, held⟩
    · exact .inl (least_le_abs low)
    · rw [abs_lowest lowest]
      exact .inr ⟨lowest, held⟩
  | sqrt => exact .inl (least_le_sqrt _)
  | sum => exact .inl (least_le_sum _)

end Computed

section Inside

variable {a : Fixed}

theorem value_abs_of_ge (low : least ≤ a) : a.abs.value = |a.value| := by
  rw [value, value, raw_abs low, Int.cast_abs, abs_div, abs_of_pos (by norm_num : (0 : ℚ) < 1048576)]

theorem neg_neg_of_ge (low : least ≤ a) : - -a = a := by
  rw [← raw_injective, raw_neg (least_le_neg low), raw_neg low, neg_neg]

theorem ceil_le_iff_of_ge (low : least ≤ a) (n : Int) : a.ceil ≤ n ↔ a.value ≤ n := by
  have floor_le : a.ceil ≤ n ↔ a.raw ≤ n * 1048576 := by
    rw [ceil, raw_neg low, scale]
    omega
  rw [floor_le, value, div_le_iff₀ (by norm_num)]
  exact_mod_cast Iff.rfl

theorem floor_value (a : Fixed) : ⌊a.value⌋ = a.raw / 1048576 := by
  have floor_eq := Rat.floor_intCast_div_natCast a.raw 1048576
  rw [Nat.cast_ofNat, Nat.cast_ofNat] at floor_eq
  exact floor_eq

theorem speedIndex_abs (low : least ≤ a) : speedIndex a.abs = speedIndex a := by
  have abs_abs : a.abs.abs = a.abs := by
    rw [← raw_injective, raw_abs (least_le_abs low), raw_abs low, abs_abs]
  rw [speedIndex, abs_abs, speedIndex]

theorem speedIndex_of_ge (low : least ≤ a) :
    ((speedIndex a).toNat : Int) = min ⌊|a.value|⌋ 4294967295 := by
  have nonneg : zero ≤ a.abs := by
    rw [nonneg_iff, raw_abs low]
    exact abs_nonneg _
  have whole_nonneg : 0 ≤ a.abs.raw / 1048576 := Int.ediv_nonneg nonneg (by decide)
  rw [← speedIndex_abs low, toNat_speedIndex nonneg, ← value_abs_of_ge low, floor_value]
  omega

theorem symmetric_of_ge (low : least ≤ a) : Symmetric a where
  least_le := low
  abs_nonneg := by
    rw [nonneg_iff, raw_abs low]
    exact abs_nonneg _
  value_abs := value_abs_of_ge low
  value_neg := by rw [value, raw_neg low, Int.cast_neg, neg_div, value]
  neg_neg := neg_neg_of_ge low
  ceil_le_iff := ceil_le_iff_of_ge low
  speedIndex_eq := speedIndex_of_ge low

end Inside

/-- Every number that is made is in the symmetric range, unless a document holds it and it is the
word below the range. -/
theorem symmetric_of_made {documents : List String} {a : Fixed} (made : Made documents a)
    (unheld : ∀ text ∈ documents, Stored text a → a.raw ≠ lowestWord) : Symmetric a := by
  rcases made.least_le_or_stored with low | ⟨lowest, text, given, stored⟩
  · exact symmetric_of_ge low
  · exact absurd lowest (unheld text given stored)

/-- A state with a residue of minus one and a half. -/
def leftOver : MotionState := ⟨0, 0, ofRaw (-1572864)⟩

/-- The residue that is read from the document of a state, with its sign turned. -/
theorem symmetric_residue :
    Made [toText leftOver] (-leftOver.residue) ∧
      (∀ text ∈ [toText leftOver], Stored text (-leftOver.residue) →
        (-leftOver.residue).raw ≠ lowestWord) ∧
      Symmetric (-leftOver.residue) := by
  have made : Made [toText leftOver] (-leftOver.residue) :=
    .neg (.stored (List.mem_singleton.mpr rfl) (.residue (Codec.ofText?_toText leftOver)))
  have unheld : ∀ text ∈ [toText leftOver], Stored text (-leftOver.residue) →
      (-leftOver.residue).raw ≠ lowestWord := fun _ _ _ => by decide
  exact ⟨made, unheld, symmetric_of_made made unheld⟩

/-- The text of the word below the range is read as this word.  Its absolute value is negative, the
whole number above it has lost its sign, and as a speed it counts as standing. -/
theorem stored_below_range :
    ∃ a, Made ["-9223372036854775808"] a ∧ ¬ Symmetric a ∧ a.raw < -limit ∧ a.abs < zero ∧
      a.ceil = 8796093022208 ∧ speedIndex a = 0 := by
  have read : ofText? "-9223372036854775808" = some (⟨lowestWord, by decide⟩ : Fixed) := by
    decide +kernel
  have made : Made ["-9223372036854775808"] ⟨lowestWord, by decide⟩ :=
    .stored (List.mem_singleton.mpr rfl) (.number read)
  have below : ¬ least ≤ (⟨lowestWord, by decide⟩ : Fixed) := by decide
  exact ⟨_, made, fun symmetric => below symmetric.least_le, by decide, by decide, by decide,
    by decide⟩

end Fixed

end Haulage
