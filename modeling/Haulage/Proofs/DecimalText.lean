import Haulage.Fixed.Decimal
import Haulage.Proofs.Exactness
import Haulage.Proofs.Parsing
import Haulage.Proofs.Rendering

/-!
# Decimal text read back

The text of a number is a decimal number: a sign where it is needed, a whole part without leading
zeros, and as many decimal places as are asked for, at most six.  Read as such it is off the number
by half a unit of the last place at most, and the texts of two numbers with equally many places are
ordered as the numbers are.
-/

namespace Haulage

/-- A decimal number taken apart. -/
structure Numeral where
  /-- Whether it has a minus sign. -/
  minus : Bool
  /-- The digits before the point. -/
  whole : List Char
  /-- The digits after the point; without any there is no point either. -/
  fraction : List Char
deriving DecidableEq

namespace Numeral

/-- The digits of a decimal number whose whole part has no leading zeros. -/
structure WellFormed (numeral : Numeral) (places : Nat) : Prop where
  /-- There is a whole part. -/
  whole_nonempty : numeral.whole ≠ []
  /-- It consists of digits. -/
  whole_digits : ∀ char ∈ numeral.whole, char.isDigit = true
  /-- It begins with a zero only if it is one. -/
  no_leading_zero : numeral.whole.head? = some '0' → numeral.whole = ['0']
  /-- It has that many decimal places. -/
  fraction_length : numeral.fraction.length = places
  /-- They are digits too. -/
  fraction_digits : ∀ char ∈ numeral.fraction, char.isDigit = true

/-- The point and what follows it, if anything does. -/
def afterWhole (fraction : List Char) : List Char := if fraction = [] then [] else '.' :: fraction

/-- The characters of a decimal number. -/
def chars (numeral : Numeral) : List Char :=
  (if numeral.minus then ['-'] else []) ++ numeral.whole ++ afterWhole numeral.fraction

/-- The number that is written. -/
def value (numeral : Numeral) : ℚ :=
  (if numeral.minus then -1 else 1) * Json.digitsValue (numeral.whole ++ numeral.fraction) /
    10 ^ numeral.fraction.length

/-- The point and the digits up to the end, or the end. -/
def readFraction? : List Char → Option (List Char)
  | [] => some []
  | '.' :: rest =>
      match Json.readDigits rest with
      | some (fraction, []) => some fraction
      | _ => none
  | _ => none

/-- A decimal number without its sign. -/
def readUnsigned? (minus : Bool) (chars : List Char) : Option Numeral := do
  let (whole, rest) ← Json.readWhole chars
  let fraction ← readFraction? rest
  return ⟨minus, whole, fraction⟩

/-- Reads a text that is a decimal number and nothing else. -/
def read? (text : String) : Option Numeral :=
  match text.toList with
  | '-' :: rest => readUnsigned? true rest
  | chars => readUnsigned? false chars

section Reading

variable {chars digits rest : List Char} {numeral : Numeral}

theorem eq_append_of_readDigits (read : Json.readDigits chars = some (digits, rest)) :
    chars = digits ++ rest ∧ digits ≠ [] ∧ ∀ char ∈ digits, char.isDigit = true := by
  unfold Json.readDigits at read
  split at read
  · contradiction
  · next nonempty =>
    simp only [Option.some.injEq, Prod.mk.injEq] at read
    obtain ⟨rfl, rfl⟩ := read
    exact ⟨List.takeWhile_append_dropWhile.symm, nonempty,
      fun char char_mem => List.all_eq_true.mp List.all_takeWhile char char_mem⟩

theorem eq_append_of_readWhole (read : Json.readWhole chars = some (digits, rest)) :
    chars = digits ++ rest ∧ digits ≠ [] ∧ (∀ char ∈ digits, char.isDigit = true) ∧
      (digits.head? = some '0' → digits = ['0']) := by
  unfold Json.readWhole at read
  split at read
  · simp only [Option.some.injEq, Prod.mk.injEq] at read
    obtain ⟨rfl, rfl⟩ := read
    exact ⟨rfl, List.cons_ne_nil _ _, List.forall_mem_singleton.mpr rfl, fun _ => rfl⟩
  · next no_zero =>
    obtain ⟨rfl, nonempty, all_digits⟩ := eq_append_of_readDigits read
    refine ⟨rfl, nonempty, all_digits, fun head_eq => ?_⟩
    obtain ⟨more, rfl⟩ := List.head?_eq_some_iff.mp head_eq
    exact absurd rfl (no_zero (more ++ rest))

theorem eq_afterWhole_of_readFraction (read : readFraction? chars = some digits) :
    chars = afterWhole digits ∧ ∀ char ∈ digits, char.isDigit = true := by
  unfold readFraction? at read
  split at read
  · obtain rfl := Option.some.inj read
    exact ⟨rfl, by simp⟩
  · split at read
    · next found =>
      obtain rfl := Option.some.inj read
      obtain ⟨rest_eq, nonempty, all_digits⟩ := eq_append_of_readDigits found
      rw [afterWhole, if_neg nonempty, rest_eq, List.append_nil]
      exact ⟨rfl, all_digits⟩
    · contradiction
  · contradiction

theorem wellFormed_of_readUnsigned {minus : Bool}
    (read : readUnsigned? minus chars = some numeral) :
    numeral.minus = minus ∧ chars = numeral.whole ++ afterWhole numeral.fraction ∧
      numeral.WellFormed numeral.fraction.length := by
  simp only [readUnsigned?, Option.bind_eq_bind, Option.bind_eq_some_iff, Option.pure_def,
    Option.some.injEq, Prod.exists] at read
  obtain ⟨whole, rest, whole_read, fraction, fraction_read, rfl⟩ := read
  obtain ⟨rfl, nonempty, whole_digits, no_leading_zero⟩ := eq_append_of_readWhole whole_read
  obtain ⟨rfl, fraction_digits⟩ := eq_afterWhole_of_readFraction fraction_read
  exact ⟨rfl, rfl, nonempty, whole_digits, no_leading_zero, rfl, fraction_digits⟩

/-- A text that is read is written as that decimal number, and well formed. -/
theorem wellFormed_of_read {text : String} (read : read? text = some numeral) :
    text.toList = numeral.chars ∧ numeral.WellFormed numeral.fraction.length := by
  unfold read? at read
  split at read
  · next text_eq =>
    obtain ⟨minus_eq, rest_eq, well_formed⟩ := wellFormed_of_readUnsigned read
    rw [text_eq, Numeral.chars, minus_eq, rest_eq]
    exact ⟨rfl, well_formed⟩
  · obtain ⟨minus_eq, chars_eq, well_formed⟩ := wellFormed_of_readUnsigned read
    rw [chars_eq, Numeral.chars, minus_eq]
    exact ⟨rfl, well_formed⟩

theorem readFraction_afterWhole (all_digits : ∀ char ∈ digits, char.isDigit = true) :
    readFraction? (afterWhole digits) = some digits := by
  by_cases empty : digits = []
  · rw [empty]
    rfl
  · have read : Json.readDigits (digits ++ []) = some (digits, []) :=
      Json.Digits.readDigits_append ⟨empty, all_digits⟩ rfl
    rw [List.append_nil] at read
    rw [afterWhole, if_neg empty, readFraction?, read]

theorem takeWhile_isDigit_afterWhole (fraction : List Char) :
    (afterWhole fraction).takeWhile Char.isDigit = [] := by
  cases fraction with
  | nil => rfl
  | cons => rfl

/-- A well-formed number is read back from its characters. -/
theorem WellFormed.read_chars {places : Nat} (well_formed : numeral.WellFormed places) :
    read? (String.ofList numeral.chars) = some numeral := by
  obtain ⟨minus, whole, fraction⟩ := numeral
  obtain ⟨nonempty, whole_digits, no_leading_zero, -, fraction_digits⟩ := well_formed
  have unsigned : readUnsigned? minus (whole ++ afterWhole fraction) =
      some ⟨minus, whole, fraction⟩ := by
    simp [readUnsigned?, readFraction_afterWhole fraction_digits,
      Json.Whole.readWhole_append ⟨⟨nonempty, whole_digits⟩, no_leading_zero⟩
        (takeWhile_isDigit_afterWhole fraction)]
  rw [read?, String.toList_ofList]
  cases minus with
  | true => exact unsigned
  | false =>
    obtain ⟨first, more, rfl⟩ := List.exists_cons_of_ne_nil nonempty
    have digit := whole_digits first List.mem_cons_self
    simp only [chars, Bool.false_eq_true, if_false, List.nil_append, List.cons_append] at unsigned ⊢
    split
    · next begins =>
      obtain rfl : first = '-' := (List.cons.inj begins).1
      contradiction
    · exact unsigned

/-- Exactly the texts of well-formed numbers are read, each as its number. -/
theorem read_eq_some_iff {text : String} :
    read? text = some numeral ↔
      text.toList = numeral.chars ∧ numeral.WellFormed numeral.fraction.length := by
  constructor
  · exact wellFormed_of_read
  · rintro ⟨text_eq, well_formed⟩
    rw [← well_formed.read_chars, ← text_eq, String.ofList_toList]

end Reading

end Numeral

namespace Fixed

variable {a b : Fixed}

theorem cast_tenPow (places : Nat) : (tenPow places : ℚ) = 10 ^ places := by
  induction places with
  | zero => rw [tenPow, Nat.cast_one, pow_zero]
  | succ places ih => rw [tenPow, Nat.cast_mul, ih, pow_succ', Nat.cast_ofNat]

theorem isDigit_lastDigits (places n : Nat) :
    ∀ char ∈ lastDigits places n, char.isDigit = true := by
  induction places generalizing n with
  | zero => exact fun _ inside => absurd inside List.not_mem_nil
  | succ places ih =>
    intro char inside
    rcases List.mem_append.mp inside with before | last
    · exact ih _ char before
    · rw [List.mem_singleton.mp last, Nat.isDigit_digitChar, decide_eq_true_eq]
      exact Nat.mod_lt n (by decide)

/-- Digits with further ones behind them. -/
theorem digitsValue_append_lastDigits (digits : List Char) (places n : Nat) :
    Json.digitsValue (digits ++ lastDigits places n) =
      Json.digitsValue digits * tenPow places + n % tenPow places := by
  induction places generalizing n with
  | zero => simp [lastDigits, tenPow, Nat.mod_one]
  | succ places ih =>
    have before := ih (n / 10)
    have digit := Nat.toNat_digitChar_of_lt_ten (Nat.mod_lt n (show 0 < 10 by decide))
    rw [Json.digitsValue] at before ⊢
    rw [lastDigits, ← List.append_assoc, List.foldl_append, before, List.foldl_cons,
      List.foldl_nil, digit, tenPow, Nat.mod_mul]
    ring_nf
    omega

/-- The decimal number that is written with `places` places. -/
def numeral (a : Fixed) (places : Nat) : Numeral where
  minus := decide (a.raw < 0 ∧ a.scaledMagnitude places ≠ 0)
  whole := Nat.toDigits 10 (a.scaledMagnitude places / tenPow places)
  fraction := lastDigits places (a.scaledMagnitude places)

/-- The number in units of the last of `places` places, rounded half away from zero. -/
def scaled (a : Fixed) (places : Nat) : Int :=
  if a.raw < 0 then -a.scaledMagnitude places else a.scaledMagnitude places

theorem toList_decimal (a : Fixed) (places : Nat) :
    (a.decimal places).toList = (a.numeral (min places mostPlaces)).chars := by
  have no_digits (shown n : Nat) : lastDigits shown n = [] ↔ shown = 0 := by
    rw [← List.length_eq_zero_iff, length_lastDigits]
  simp only [decimal, String.toList_ofList, decimalChars, Numeral.chars, Numeral.afterWhole,
    numeral, decide_eq_true_eq, no_digits]

theorem wellFormed_numeral (a : Fixed) (places : Nat) : (a.numeral places).WellFormed places where
  whole_nonempty := Nat.toDigits_ne_nil
  whole_digits _ := Nat.isDigit_of_mem_toDigits (by decide) (by decide)
  no_leading_zero := Json.leading_zero_toDigits _
  fraction_length := length_lastDigits places _
  fraction_digits := isDigit_lastDigits places _

theorem value_numeral (a : Fixed) (places : Nat) :
    (a.numeral places).value = a.scaled places / 10 ^ places := by
  have digits_eq : Json.digitsValue ((a.numeral places).whole ++ (a.numeral places).fraction) =
      a.scaledMagnitude places := by
    rw [numeral, digitsValue_append_lastDigits, Json.digitsValue_toDigits, Nat.div_add_mod']
  rw [Numeral.value, digits_eq, (wellFormed_numeral a places).fraction_length, scaled, numeral]
  by_cases negative : a.raw < 0
  · by_cases nothing : a.scaledMagnitude places = 0
    · simp [nothing]
    · simp [negative, nothing]
  · simp [negative]

theorem minus_numeral_iff (a : Fixed) (places : Nat) :
    (a.numeral places).minus = true ↔ (a.numeral places).value ≠ 0 ∧ a < zero := by
  have power_ne : (10 : ℚ) ^ places ≠ 0 := pow_ne_zero places (by norm_num)
  have scaled_eq_zero : a.scaled places = 0 ↔ a.scaledMagnitude places = 0 := by
    rw [scaled]
    split
    · omega
    · omega
  rw [value_numeral, ne_eq, div_eq_zero_iff, or_iff_left power_ne, Int.cast_eq_zero,
    scaled_eq_zero, numeral, decide_eq_true_eq, and_comm]
  exact Iff.rfl

/-- The rounded number is off by half a unit at most. -/
theorem abs_scaled_sub_le (a : Fixed) (places : Nat) :
    |2 * (a.scaled places * 1048576 - a.raw * tenPow places)| ≤ 1048576 := by
  have magnitude_eq : (a.raw.natAbs : Int) * tenPow places = |a.raw * tenPow places| := by
    rw [abs_mul, Int.natCast_natAbs, Nat.abs_cast]
  rw [scaled, scaledMagnitude, abs_le]
  generalize exact_eq : a.raw.natAbs * tenPow places = exact
  rw [← Nat.cast_mul, exact_eq] at magnitude_eq
  split
  · next negative =>
    have nonpos : a.raw * tenPow places ≤ 0 :=
      mul_nonpos_of_nonpos_of_nonneg negative.le (Nat.cast_nonneg _)
    rw [abs_of_nonpos nonpos] at magnitude_eq
    omega
  · next nonneg =>
    have product_nonneg : 0 ≤ a.raw * tenPow places :=
      Int.mul_nonneg (not_lt.mp nonneg) (Nat.cast_nonneg _)
    rw [abs_of_nonneg product_nonneg] at magnitude_eq
    omega

theorem scaledMagnitude_mono {places : Nat} (le : a.raw.natAbs ≤ b.raw.natAbs) :
    a.scaledMagnitude places ≤ b.scaledMagnitude places :=
  Nat.div_le_div_right (Nat.add_le_add_right (Nat.mul_le_mul_right _ le) _)

theorem scaled_mono {places : Nat} (le : a ≤ b) : a.scaled places ≤ b.scaled places := by
  rw [le_def] at le
  rw [scaled, scaled]
  by_cases left_negative : a.raw < 0
  · by_cases right_negative : b.raw < 0
    · have mono : b.scaledMagnitude places ≤ a.scaledMagnitude places :=
        scaledMagnitude_mono (by omega)
      rw [if_pos left_negative, if_pos right_negative]
      omega
    · rw [if_pos left_negative, if_neg right_negative]
      omega
  · have mono : a.scaledMagnitude places ≤ b.scaledMagnitude places :=
      scaledMagnitude_mono (by omega)
    rw [if_neg left_negative, if_neg (by omega)]
    omega

theorem value_numeral_mono {places : Nat} (le : a ≤ b) :
    (a.numeral places).value ≤ (b.numeral places).value := by
  have scaled_le : (a.scaled places : ℚ) ≤ b.scaled places := Int.cast_le.mpr (scaled_mono le)
  rw [value_numeral, value_numeral]
  gcongr

/-- What is written is off by half a unit of the last place at most. -/
theorem abs_value_numeral_sub_le (a : Fixed) (places : Nat) :
    |(a.numeral places).value - a.value| ≤ 1 / 10 ^ places / 2 := by
  have power_pos : (0 : ℚ) < 10 ^ places := by positivity
  have scaled_near : |2 * ((a.scaled places : ℚ) * 1048576 - a.raw * 10 ^ places)| ≤ 1048576 := by
    rw [← cast_tenPow]
    exact_mod_cast abs_scaled_sub_le a places
  rw [abs_le] at scaled_near
  rw [value_numeral, value, div_sub_div _ _ power_pos.ne' (by norm_num), abs_le, div_div,
    ← neg_div, div_le_div_iff₀ (by positivity) (by positivity),
    div_le_div_iff₀ (by positivity) (by positivity)]
  constructor
  · nlinarith
  · nlinarith

/-- The text with so many decimal places, or with the usual number of them. -/
def written (a : Fixed) : Option Nat → String
  | none => toString a
  | some places => a.decimal places

/-- How many decimal places are written if so many are asked for. -/
def placesWritten : Option Nat → Nat
  | none => 6
  | some places => min places 6

/-- A text with so many places stands for a number: it is a decimal number, the nearest one, and
has the sign of the number unless it is zero. -/
structure WrittenAs (a : Fixed) (text : String) (places : Nat) (numeral : Numeral) : Prop where
  /-- The text is read as the decimal number, -/
  read_eq : Numeral.read? text = some numeral
  /-- and has no characters but those of its sign, its digits and its point. -/
  chars_eq : text.toList = numeral.chars
  /-- Its whole part has no leading zeros, and it has that many places. -/
  wellFormed : numeral.WellFormed places
  /-- It is off by half a unit of the last place at most. -/
  near : |numeral.value - a.value| ≤ 1 / 10 ^ places / 2
  /-- A minus sign is written exactly before a digit other than zero. -/
  minus_iff : numeral.minus = true ↔ numeral.value ≠ 0 ∧ a < zero

theorem toList_written (a : Fixed) (places : Option Nat) :
    (a.written places).toList = (a.numeral (placesWritten places)).chars := by
  cases places with
  | none => exact toList_decimal a mostPlaces
  | some places => exact toList_decimal a places

theorem writtenAs_numeral (a : Fixed) (places : Option Nat) :
    a.WrittenAs (a.written places) (placesWritten places) (a.numeral (placesWritten places)) where
  read_eq := by
    rw [Numeral.read_eq_some_iff, (wellFormed_numeral a _).fraction_length]
    exact ⟨toList_written a places, wellFormed_numeral a _⟩
  chars_eq := toList_written a places
  wellFormed := wellFormed_numeral a _
  near := abs_value_numeral_sub_le a _
  minus_iff := minus_numeral_iff a _

/-- The text of a number is the nearest decimal number with its places, and texts with equally many
places are ordered as the numbers are. -/
theorem written_nearest_ordered (places : Option Nat) :
    ∃ numeral : Fixed → Numeral,
      (∀ a : Fixed, a.WrittenAs (a.written places) (placesWritten places) (numeral a)) ∧
      ∀ a b : Fixed, a ≤ b → (numeral a).value ≤ (numeral b).value :=
  ⟨fun a => a.numeral (placesWritten places), fun a => writtenAs_numeral a places,
    fun _ _ => value_numeral_mono⟩

/-- A small negative number and one that is carried up to the next whole number. -/
theorem written_nearest_ordered_hundredths :
    ∃ left right, (ofRaw (-5)).WrittenAs "0.00" 2 left ∧ (ofRaw 1048575).WrittenAs "1.00" 2 right ∧
      left.value ≤ right.value := by
  obtain ⟨numeral, writes, ordered⟩ := written_nearest_ordered (some 2)
  have left_text : (ofRaw (-5)).written (some 2) = "0.00" := by decide
  have right_text : (ofRaw 1048575).written (some 2) = "1.00" := by decide
  have left_writes := writes (ofRaw (-5))
  have right_writes := writes (ofRaw 1048575)
  rw [left_text] at left_writes
  rw [right_text] at right_writes
  exact ⟨_, _, left_writes, right_writes, ordered _ _ (by decide)⟩

end Fixed

end Haulage
