import Haulage.Json.Parser

/-!
# Reading every text

The parser reads every text of a value as this value, whatever follows it that does not go on with
a number.  Texts between quotes come first, then numbers, then lists and objects by induction on
the grammar; a part leaves at most blanks behind, which the next part passes over.
-/

namespace Haulage.Json

section Texts

variable {char : Char} {rest tail spelling chars : List Char} {pieces : List Piece} {text : String}

theorem readPieces_quote (rest : List Char) : readPieces ('"' :: rest) = some ([], rest) := by
  rw [readPieces]

theorem readPieces_short {mark : Char} (named : shortEscape mark = some char)
    (read : readPieces rest = some (pieces, tail)) :
    readPieces ('\\' :: mark :: rest) = some (.char char :: pieces, tail) := by
  have not_code : mark ≠ 'u' := by
    rintro rfl
    contradiction
  rw [readPieces]
  · simp [named, read]
  · intro _ _ _ _ _ mark_eq
    exact absurd mark_eq not_code

theorem readPieces_code {first second third fourth : Char} {code : Nat}
    (named : hexUnit first second third fourth = some code)
    (read : readPieces rest = some (pieces, tail)) :
    readPieces ('\\' :: 'u' :: first :: second :: third :: fourth :: rest) =
      some (pieceOfUnit code :: pieces, tail) := by
  rw [readPieces]
  simp [named, read]

theorem readPieces_plain (not_quote : char ≠ '"') (not_escape : char ≠ '\\')
    (visible : ¬ char.toNat < 32) (read : readPieces rest = some (pieces, tail)) :
    readPieces (char :: rest) = some (.char char :: pieces, tail) := by
  rw [readPieces]
  · simp [visible, read]
  · exact not_quote
  · intro _ _ _ _ _ char_eq
    exact absurd char_eq not_escape
  · intro _ _ char_eq
    exact absurd char_eq not_escape

/-- What stands between quotes is read as the characters that it stands for. -/
theorem Spells.readPieces_eq (spelled : Spells spelling chars) (rest : List Char) :
    ∃ pieces, readPieces (spelling ++ '"' :: rest) = some (pieces, rest) ∧
      joinPieces pieces = some chars := by
  induction spelled with
  | nil => exact ⟨[], readPieces_quote rest, rfl⟩
  | plain not_quote not_escape visible _ ih =>
    obtain ⟨pieces, read, joined⟩ := ih
    refine ⟨_, readPieces_plain not_quote not_escape visible read, ?_⟩
    rw [joinPieces, joined, Option.map_some]
  | short named _ ih =>
    obtain ⟨pieces, read, joined⟩ := ih
    refine ⟨_, readPieces_short named read, ?_⟩
    rw [joinPieces, joined, Option.map_some]
  | code named whole _ ih =>
    obtain ⟨pieces, read, joined⟩ := ih
    refine ⟨_, readPieces_code named read, ?_⟩
    rw [pieceOfUnit, if_neg (by omega), if_neg (by omega), joinPieces, joined, Option.map_some]
  | pair named first_half other_named second_half _ ih =>
    obtain ⟨pieces, read, joined⟩ := ih
    refine ⟨_, readPieces_code named (readPieces_code other_named read), ?_⟩
    rw [pieceOfUnit, if_pos first_half, pieceOfUnit, if_neg (by omega), if_pos second_half,
      joinPieces, joined, Option.map_some]

theorem Spells.readText_eq (spelled : Spells spelling text.toList) (rest : List Char) :
    readText (spelling ++ '"' :: rest) = some (some text, rest) := by
  obtain ⟨pieces, read, joined⟩ := spelled.readPieces_eq rest
  rw [readText, read]
  simp [joined, String.ofList_toList]

end Texts

section Blanks

variable {char : Char} {blanks rest chars : List Char}

theorem skipSpace_cons (visible : isSpace char = false) (rest : List Char) :
    skipSpace (char :: rest) = char :: rest := by
  rw [skipSpace, List.dropWhile_cons, if_neg (by simp [visible])]

theorem Blank.skipSpace_append (blank : Blank blanks) (rest : List Char) :
    skipSpace (blanks ++ rest) = skipSpace rest :=
  List.dropWhile_append_of_pos blank

/-- Blanks are passed over up to the first character that is none. -/
theorem Blank.skipSpace_append_cons (blank : Blank blanks) (visible : isSpace char = false)
    (rest : List Char) : skipSpace (blanks ++ char :: rest) = char :: rest := by
  rw [blank.skipSpace_append, skipSpace_cons visible]

theorem readValue_congr (same : skipSpace chars = skipSpace rest) (fuel : Nat) :
    readValue fuel chars = readValue fuel rest := by
  cases fuel with
  | zero => rw [readValue, readValue]
  | succ fuel => rw [readValue, readValue, same]

theorem readItem_congr (same : skipSpace chars = skipSpace rest) (fuel : Nat) :
    readItem fuel chars = readItem fuel rest := by
  cases fuel with
  | zero => rw [readItem, readItem]
  | succ fuel => rw [readItem, readItem, readValue_congr same]

theorem readMember_congr (same : skipSpace chars = skipSpace rest) (fuel : Nat) :
    readMember fuel chars = readMember fuel rest := by
  cases fuel with
  | zero => rw [readMember, readMember]
  | succ fuel => rw [readMember, readMember, same]

end Blanks

/-- Whether nothing that stands here would go on with a number. -/
def endsNumber : List Char → Bool
  | [] => true
  | char :: _ => !char.isDigit && char != '.' && char != 'e' && char != 'E'

/-- What can stand at the front of a number. -/
def beginsNumber (char : Char) : Bool := char.isDigit || char == '-'

section Numbers

variable {digits fraction exponent rest : List Char}

theorem endsNumber_of_isSpace {blank : Char} (space : isSpace blank = true) (rest : List Char) :
    endsNumber (blank :: rest) = true := by
  simp only [isSpace, Bool.or_eq_true, beq_iff_eq] at space
  rcases space with ((rfl | rfl) | rfl) | rfl <;> rfl

theorem isSpace_of_beginsNumber {char : Char} (begins : beginsNumber char = true) :
    isSpace char = false := by
  rw [Bool.eq_false_iff]
  intro space
  simp only [isSpace, Bool.or_eq_true, beq_iff_eq] at space
  rcases space with ((rfl | rfl) | rfl) | rfl <;> contradiction

/-- What ends a number does not begin with a character that goes on with it. -/
theorem ne_cons_of_ends {char : Char} (ends : endsNumber rest = true)
    (goes_on : ∀ more, endsNumber (char :: more) = false) (more : List Char) :
    rest ≠ char :: more := by
  rintro rfl
  rw [goes_on] at ends
  contradiction

theorem takeWhile_isDigit_of_ends (ends : endsNumber rest = true) :
    rest.takeWhile Char.isDigit = [] := by
  cases rest with
  | nil => rfl
  | cons char rest =>
    have no_digit : char.isDigit = false := by simp_all [endsNumber]
    simp [no_digit]

theorem Digits.readDigits_append (all_digits : Digits digits)
    (stops : rest.takeWhile Char.isDigit = []) :
    readDigits (digits ++ rest) = some (digits, rest) := by
  have rest_eq : rest.dropWhile Char.isDigit = rest := by
    have split_eq := List.takeWhile_append_dropWhile (p := Char.isDigit) (l := rest)
    rwa [stops, List.nil_append] at split_eq
  rw [readDigits, List.takeWhile_append_of_pos all_digits.2,
    List.dropWhile_append_of_pos all_digits.2, stops, rest_eq, List.append_nil]
  cases digits with
  | nil => exact absurd rfl all_digits.1
  | cons => rfl

theorem Whole.readWhole_append (whole : Whole digits) (stops : rest.takeWhile Char.isDigit = []) :
    readWhole (digits ++ rest) = some (digits, rest) := by
  by_cases zero_first : digits.head? = some '0'
  · rw [whole.2 zero_first]
    rfl
  · rw [← whole.1.readDigits_append stops, readWhole]
    intro _ begins
    obtain ⟨first, more, rfl⟩ := List.exists_cons_of_ne_nil whole.1.1
    exact zero_first (congrArg some (List.cons.inj begins).1)

theorem Digits.cons (all_digits : Digits digits) :
    ∃ first more, digits = first :: more ∧ first.isDigit = true := by
  obtain ⟨first, more, rfl⟩ := List.exists_cons_of_ne_nil all_digits.1
  exact ⟨first, more, rfl, all_digits.2 first List.mem_cons_self⟩

theorem Digits.append_ne_cons {char : Char} (all_digits : Digits digits)
    (no_digit : char.isDigit = false) (more : List Char) : digits ++ rest ≠ char :: more := by
  obtain ⟨first, others, rfl, digit⟩ := all_digits.cons
  intro begins
  obtain rfl : first = char := (List.cons.inj begins).1
  rw [no_digit] at digit
  contradiction

theorem Digits.skipSign_append (all_digits : Digits digits) {sign : List Char}
    (signed : sign = [] ∨ sign = ['+'] ∨ sign = ['-']) (rest : List Char) :
    skipSign (sign ++ (digits ++ rest)) = digits ++ rest := by
  rcases signed with rfl | rfl | rfl
  · unfold skipSign
    split
    · next begins => exact absurd begins (all_digits.append_ne_cons rfl _)
    · next begins => exact absurd begins (all_digits.append_ne_cons rfl _)
    · rfl
  · rfl
  · rfl

theorem Exponent.skipExponent_append (scaled : Exponent exponent) (ends : endsNumber rest = true) :
    skipExponent (exponent ++ rest) = some (!exponent.isEmpty, rest) := by
  cases scaled with
  | absent =>
    unfold skipExponent
    split
    · next begins => exact absurd begins (ne_cons_of_ends ends (fun _ => rfl) _)
    · next begins => exact absurd begins (ne_cons_of_ends ends (fun _ => rfl) _)
    · rfl
  | present marked signed follow =>
    have read := follow.readDigits_append (takeWhile_isDigit_of_ends ends)
    rw [List.cons_append, List.append_assoc]
    rcases marked with rfl | rfl
    · rw [skipExponent, follow.skipSign_append signed, read]
      rfl
    · rw [skipExponent, follow.skipSign_append signed, read]
      rfl

/-- What follows the digits of a fraction does not begin with a digit. -/
theorem Exponent.stops (scaled : Exponent exponent) (ends : endsNumber rest = true) :
    (exponent ++ rest).takeWhile Char.isDigit = [] := by
  cases scaled with
  | absent => exact takeWhile_isDigit_of_ends ends
  | present marked =>
    rcases marked with rfl | rfl <;> rfl

theorem Fraction.stops (broken : Fraction fraction) (scaled : Exponent exponent)
    (ends : endsNumber rest = true) :
    (fraction ++ (exponent ++ rest)).takeWhile Char.isDigit = [] := by
  cases broken with
  | absent => exact scaled.stops ends
  | present => rfl

theorem Fraction.skipFraction_append (broken : Fraction fraction) (scaled : Exponent exponent)
    (ends : endsNumber rest = true) :
    skipFraction (fraction ++ (exponent ++ rest)) = some (!fraction.isEmpty, exponent ++ rest) := by
  cases broken with
  | absent =>
    have no_point : ∀ more, exponent ++ rest ≠ '.' :: more := by
      intro more begins
      cases scaled with
      | absent => exact ne_cons_of_ends ends (fun _ => rfl) more begins
      | present marked =>
        obtain ⟨rfl, -⟩ := List.cons.inj begins
        rcases marked with mark_eq | mark_eq <;> contradiction
    unfold skipFraction
    split
    · next begins => exact absurd begins (no_point _)
    · rfl
  | present follow =>
    rw [List.cons_append, skipFraction, follow.readDigits_append (scaled.stops ends)]
    rfl

/-- A number is read, if nothing follows that goes on with it. -/
theorem readNumber_append (negative : Bool) (whole : Whole digits) (broken : Fraction fraction)
    (scaled : Exponent exponent) (ends : endsNumber rest = true) :
    readNumber (sign negative ++ (digits ++ (fraction ++ (exponent ++ rest)))) =
      some (numberValue negative digits (!fraction.isEmpty || !exponent.isEmpty), rest) := by
  have read : readUnsigned negative (digits ++ (fraction ++ (exponent ++ rest))) =
      some (numberValue negative digits (!fraction.isEmpty || !exponent.isEmpty), rest) := by
    rw [readUnsigned, whole.readWhole_append (broken.stops scaled ends)]
    simp only [Option.bind_eq_bind, Option.bind_some, broken.skipFraction_append scaled ends,
      scaled.skipExponent_append ends]
    rfl
  cases negative with
  | true => exact read
  | false =>
    rw [← read, sign, if_neg Bool.false_ne_true, List.nil_append, readNumber]
    intro _ begins
    exact whole.1.append_ne_cons rfl _ begins

theorem sign_append_cons (negative : Bool) (whole : Whole digits) :
    ∃ first more, sign negative ++ digits = first :: more ∧ beginsNumber first = true := by
  cases negative with
  | true => exact ⟨'-', digits, rfl, rfl⟩
  | false =>
    obtain ⟨first, more, rfl, digit⟩ := whole.1.cons
    exact ⟨first, more, rfl, by rw [beginsNumber, digit, Bool.true_or]⟩

theorem readValue_number {first : Char} (begins : beginsNumber first = true) (fuel : Nat)
    (more : List Char) : readValue (fuel + 1) (first :: more) = readNumber (first :: more) := by
  rw [readValue, skipSpace_cons (isSpace_of_beginsNumber begins)]
  split
  case h_7 => rfl
  all_goals
    next begins_eq =>
      obtain ⟨rfl, -⟩ := List.cons.inj begins_eq
      contradiction

end Numbers

section Openings

variable (fuel : Nat) (rest : List Char)

theorem readValue_quote : readValue (fuel + 1) ('"' :: rest) =
    (readText rest).map fun (text, rest) => ((text.map str).getD unread, rest) := by
  rw [readValue, skipSpace_cons (by decide)]
  rfl

theorem readValue_bracket : readValue (fuel + 1) ('[' :: rest) =
    (readItems fuel true rest).map fun (items, rest) => (arr items, rest) := by
  rw [readValue, skipSpace_cons (by decide)]
  rfl

theorem readValue_brace : readValue (fuel + 1) ('\x7b' :: rest) =
    (readMembers fuel true rest).map fun (members, rest) => (ofMembers members, rest) := by
  rw [readValue, skipSpace_cons (by decide)]
  rfl

end Openings

/-- With two units of fuel for each of its characters a text is read as the value, whatever follows
that does not go on with a number.  Only blanks are left of it. -/
def ReadsAs (chars : List Char) (value : Json) : Prop :=
  ∀ (fuel : Nat) (rest : List Char), endsNumber rest = true → 2 * chars.length ≤ fuel →
    ∃ blanks, Blank blanks ∧ readValue fuel (chars ++ rest) = some (value, blanks ++ rest)

/-- After its blanks a text begins with a character that does not close a list. -/
theorem Denotes.begins {chars : List Char} {value : Json} (text : Denotes chars value) :
    ∃ blanks first more, chars = blanks ++ first :: more ∧ Blank blanks ∧ isSpace first = false ∧
      first ≠ ']' := by
  induction text with
  | blankBefore space _ ih =>
    obtain ⟨blanks, first, more, rfl, blank, visible⟩ := ih
    exact ⟨_ :: blanks, first, more, rfl, List.forall_mem_cons.mpr ⟨space, blank⟩, visible⟩
  | blankAfter _ _ ih =>
    obtain ⟨blanks, first, more, rfl, blank, visible⟩ := ih
    exact ⟨blanks, first, _, by rw [List.append_assoc, List.cons_append], blank, visible⟩
  | @number negative digits fraction exponent whole =>
    obtain ⟨first, more, chars_eq, begins⟩ := sign_append_cons negative whole
    refine ⟨[], first, more ++ (fraction ++ exponent), ?_, List.forall_mem_nil _,
      isSpace_of_beginsNumber begins, ?_⟩
    · rw [← List.append_assoc, chars_eq]
      rfl
    · rintro rfl
      contradiction
  | _ => exact ⟨[], _, _, rfl, List.forall_mem_nil _, by decide, by decide⟩

theorem Denotes.length_pos {chars : List Char} {value : Json} (text : Denotes chars value) :
    0 < chars.length := by
  obtain ⟨blanks, first, more, rfl, -⟩ := text.begins
  rw [List.length_append, List.length_cons]
  omega

section Items

variable {blanks chars rest : List Char} {part : List Char × Json}
  {parts : List (List Char × Json)}

theorem readItems_close (blank : Blank blanks) (fuel : Nat) (first : Bool) (rest : List Char) :
    readItems (fuel + 1) first (blanks ++ ']' :: rest) = some ([], rest) := by
  rw [readItems.eq_def]
  simp only [blank.skipSpace_append_cons (show isSpace ']' = false by decide)]

theorem readItems_comma (blank : Blank blanks) (fuel : Nat) (rest : List Char) :
    readItems (fuel + 1) false (blanks ++ ',' :: rest) = readItem fuel rest := by
  rw [readItems.eq_def]
  simp only [blank.skipSpace_append_cons (show isSpace ',' = false by decide)]

theorem readItems_first {value : Json} (text : Denotes chars value) (fuel : Nat)
    (rest : List Char) :
    readItems (fuel + 1) true (chars ++ rest) = readItem fuel (chars ++ rest) := by
  obtain ⟨blanks, first, more, rfl, blank, visible, inner⟩ := text.begins
  have skipped : skipSpace (blanks ++ first :: more ++ rest) = first :: (more ++ rest) := by
    rw [List.append_assoc, List.cons_append, blank.skipSpace_append_cons visible]
  have item_eq : readItem fuel (first :: (more ++ rest)) =
      readItem fuel (blanks ++ first :: more ++ rest) :=
    readItem_congr (by rw [skipped, skipSpace_cons visible]) fuel
  rw [← item_eq, readItems.eq_def]
  simp only [skipped]
  split
  · next begins => exact absurd (List.cons.inj begins).1 inner
  · contradiction
  · rfl
  · contradiction

/-- Texts that are read one by one are read as the items of a list. -/
theorem readItem_parts (rest : List Char)
    (texts : ∀ other ∈ part :: parts, ReadsAs other.1 other.2) (fuel : Nat)
    (enough : 2 * ([','].intercalate ((part :: parts).map Prod.fst)).length + 2 ≤ fuel) :
    readItem fuel ([','].intercalate ((part :: parts).map Prod.fst) ++ ']' :: rest) =
      some ((part :: parts).map Prod.snd, rest) := by
  have part_read := texts part List.mem_cons_self
  induction parts generalizing part fuel with
  | nil =>
    simp only [List.map_cons, List.map_nil, List.intercalate_singleton] at enough ⊢
    obtain ⟨fuel, rfl⟩ : ∃ less, fuel = less + 2 := ⟨fuel - 2, by omega⟩
    obtain ⟨blanks, blank, read⟩ := part_read (fuel + 1) (']' :: rest) rfl (by omega)
    rw [readItem, read]
    simp only [Option.bind_eq_bind, Option.bind_some, readItems_close blank]
    rfl
  | cons next parts ih =>
    have next_read := texts next (by simp)
    simp only [List.map_cons, List.intercalate_cons_cons, List.length_append, List.length_cons,
      List.length_nil] at enough
    simp only [List.map_cons, List.intercalate_cons_cons, List.append_assoc, List.cons_append,
      List.nil_append] at ih ⊢
    obtain ⟨fuel, rfl⟩ : ∃ less, fuel = less + 2 := ⟨fuel - 2, by omega⟩
    have others := ih (fun other inside => texts other (List.mem_cons_of_mem part inside)) fuel
      (by omega) next_read
    obtain ⟨blanks, blank, read⟩ := part_read (fuel + 1)
      (',' :: ([','].intercalate (next.1 :: parts.map Prod.fst) ++ ']' :: rest)) rfl (by omega)
    rw [readItem, read]
    simp only [Option.bind_eq_bind, Option.bind_some, readItems_comma blank, others]
    rfl

theorem readItems_parts (rest : List Char) (texts : ∀ part ∈ parts, Denotes part.1 part.2)
    (read : ∀ part ∈ parts, ReadsAs part.1 part.2) {fuel : Nat}
    (enough : 2 * ([','].intercalate (parts.map Prod.fst)).length + 3 ≤ fuel) :
    readItems fuel true ([','].intercalate (parts.map Prod.fst) ++ ']' :: rest) =
      some (parts.map Prod.snd, rest) := by
  obtain ⟨fuel, rfl⟩ : ∃ less, fuel = less + 1 := ⟨fuel - 1, by omega⟩
  cases parts with
  | nil => exact readItems_close (List.forall_mem_nil _) fuel true rest
  | cons part parts =>
    have inside := readItem_parts rest read fuel (by omega)
    obtain ⟨more, parts_eq⟩ : ∃ more,
        [','].intercalate ((part :: parts).map Prod.fst) = part.1 ++ more := by
      cases parts with
      | nil => exact ⟨[], by simp⟩
      | cons next parts => exact ⟨_, by rw [List.map_cons, List.map_cons,
          List.intercalate_cons_cons, List.append_assoc]⟩
    rw [parts_eq, List.append_assoc] at inside ⊢
    rw [readItems_first (texts part List.mem_cons_self), inside]

end Items

section Members

variable {blanks chars rest : List Char} {name : String} {part : Member} {parts : List Member}

/-- Members with the names that were read. -/
def named (members : List (String × Json)) : List (Option String × Json) :=
  members.map fun member => (some member.1, member.2)

theorem ofMembers_named (members : List (String × Json)) :
    ofMembers (named members) = obj members := by
  have names_read : (named members).mapM (fun member => member.1.map (·, member.2)) =
      some members := by
    induction members with
    | nil => rfl
    | cons member members ih =>
      rw [named] at ih
      rw [named, List.map_cons, List.mapM_cons, ih]
      rfl
  rw [ofMembers]
  split
  · next found found_eq => rw [Option.some.inj (found_eq.symm.trans names_read)]
  · next none_eq => exact absurd (none_eq.symm.trans names_read) nofun

theorem readMembers_close (blank : Blank blanks) (fuel : Nat) (first : Bool) (rest : List Char) :
    readMembers (fuel + 1) first (blanks ++ '\x7d' :: rest) = some ([], rest) := by
  rw [readMembers.eq_def]
  simp only [blank.skipSpace_append_cons (show isSpace '\x7d' = false by decide)]

theorem readMembers_comma (blank : Blank blanks) (fuel : Nat) (rest : List Char) :
    readMembers (fuel + 1) false (blanks ++ ',' :: rest) = readMember fuel rest := by
  rw [readMembers.eq_def]
  simp only [blank.skipSpace_append_cons (show isSpace ',' = false by decide)]

theorem readMembers_first (names : Names chars name) (fuel : Nat) (rest : List Char) :
    readMembers (fuel + 1) true (chars ++ rest) = readMember fuel (chars ++ rest) := by
  obtain ⟨before, spelling, after, blank, -, -, rfl⟩ := names
  have skipped : skipSpace (before ++ '"' :: (spelling ++ '"' :: after) ++ rest) =
      '"' :: (spelling ++ '"' :: after ++ rest) := by
    rw [List.append_assoc, List.cons_append, blank.skipSpace_append_cons (by decide)]
  have member_eq : readMember fuel ('"' :: (spelling ++ '"' :: after ++ rest)) =
      readMember fuel (before ++ '"' :: (spelling ++ '"' :: after) ++ rest) :=
    readMember_congr (by rw [skipped, skipSpace_cons (by decide)]) fuel
  rw [← member_eq, readMembers.eq_def]
  simp only [skipped]
  rfl

/-- A member is read by its name and its value, and the others after it. -/
theorem readMember_append (names : Names part.nameChars part.name)
    (read : ReadsAs part.valueChars part.value) {fuel : Nat}
    (enough : 2 * part.valueChars.length ≤ fuel) (ends : endsNumber rest = true) :
    ∃ blanks, Blank blanks ∧ readMember (fuel + 1) (part.chars ++ rest) =
      (readMembers fuel false (blanks ++ rest)).map fun (members, rest) =>
        ((some part.name, part.value) :: members, rest) := by
  obtain ⟨before, spelling, after, before_blank, spelled, after_blank, name_eq⟩ := names
  obtain ⟨blanks, blank, value_read⟩ := read fuel rest ends enough
  have chars_eq : part.chars ++ rest =
      before ++ '"' :: (spelling ++ '"' :: (after ++ ':' :: (part.valueChars ++ rest))) := by
    rw [Member.chars, name_eq]
    simp only [List.append_assoc, List.cons_append]
  refine ⟨blanks, blank, ?_⟩
  rw [chars_eq, readMember, before_blank.skipSpace_append_cons (by decide)]
  simp only [spelled.readText_eq, Option.bind_eq_bind, Option.bind_some,
    after_blank.skipSpace_append_cons (show isSpace ':' = false by decide), value_read]
  cases readMembers fuel false (blanks ++ rest) <;> rfl

/-- Members whose values are read one by one are read as the members of an object. -/
theorem readMember_parts (rest : List Char)
    (names : ∀ other ∈ part :: parts, Names other.nameChars other.name)
    (read : ∀ other ∈ part :: parts, ReadsAs other.valueChars other.value) (fuel : Nat)
    (enough : 2 * ([','].intercalate ((part :: parts).map Member.chars)).length + 2 ≤ fuel) :
    readMember fuel ([','].intercalate ((part :: parts).map Member.chars) ++ '\x7d' :: rest) =
      some (named ((part :: parts).map fun member => (member.name, member.value)), rest) := by
  have part_names := names part List.mem_cons_self
  have part_read := read part List.mem_cons_self
  have part_length : part.chars.length = part.nameChars.length + (part.valueChars.length + 1) := by
    rw [Member.chars, List.length_append, List.length_cons]
  induction parts generalizing part fuel with
  | nil =>
    simp only [List.map_cons, List.map_nil, List.intercalate_singleton] at enough ⊢
    obtain ⟨fuel, rfl⟩ : ∃ less, fuel = less + 2 := ⟨fuel - 2, by omega⟩
    obtain ⟨blanks, blank, member_read⟩ :=
      readMember_append part_names part_read (show _ ≤ fuel + 1 by omega)
        (show endsNumber ('\x7d' :: rest) = true from rfl)
    rw [member_read, readMembers_close blank]
    rfl
  | cons next parts ih =>
    simp only [List.map_cons, List.intercalate_cons_cons, List.length_append, List.length_cons,
      List.length_nil] at enough
    simp only [List.map_cons, List.intercalate_cons_cons, List.append_assoc, List.cons_append,
      List.nil_append] at ih ⊢
    obtain ⟨fuel, rfl⟩ : ∃ less, fuel = less + 2 := ⟨fuel - 2, by omega⟩
    have others := ih (fun other inside => names other (List.mem_cons_of_mem part inside))
      (fun other inside => read other (List.mem_cons_of_mem part inside)) fuel (by omega)
      (names next (by simp)) (read next (by simp))
      (by rw [Member.chars, List.length_append, List.length_cons])
    obtain ⟨blanks, blank, member_read⟩ :=
      readMember_append part_names part_read (show _ ≤ fuel + 1 by omega)
        (show endsNumber (',' :: ([','].intercalate (next.chars :: parts.map Member.chars) ++
          '\x7d' :: rest)) = true from rfl)
    rw [member_read, readMembers_comma blank, others]
    rfl

theorem readMembers_parts (rest : List Char)
    (names : ∀ part ∈ parts, Names part.nameChars part.name)
    (read : ∀ part ∈ parts, ReadsAs part.valueChars part.value) {fuel : Nat}
    (enough : 2 * ([','].intercalate (parts.map Member.chars)).length + 3 ≤ fuel) :
    readMembers fuel true ([','].intercalate (parts.map Member.chars) ++ '\x7d' :: rest) =
      some (named (parts.map fun member => (member.name, member.value)), rest) := by
  obtain ⟨fuel, rfl⟩ : ∃ less, fuel = less + 1 := ⟨fuel - 1, by omega⟩
  cases parts with
  | nil => exact readMembers_close (List.forall_mem_nil _) fuel true rest
  | cons part parts =>
    have inside := readMember_parts rest names read fuel (by omega)
    obtain ⟨more, parts_eq⟩ : ∃ more,
        [','].intercalate ((part :: parts).map Member.chars) = part.nameChars ++ more := by
      cases parts with
      | nil => exact ⟨_, by rw [List.map_cons, List.map_nil, List.intercalate_singleton,
          Member.chars]⟩
      | cons next parts => exact ⟨_, by rw [List.map_cons, List.map_cons,
          List.intercalate_cons_cons, Member.chars, List.append_assoc, List.append_assoc]⟩
    rw [parts_eq, List.append_assoc] at inside ⊢
    rw [readMembers_first (names part List.mem_cons_self), inside]

end Members

/-- There is always a unit of fuel to spend. -/
theorem Denotes.readsAs_of_succ {chars : List Char} {value : Json} (text : Denotes chars value)
    (read : ∀ (fuel : Nat) (rest : List Char), endsNumber rest = true →
      2 * chars.length ≤ fuel + 1 → readValue (fuel + 1) (chars ++ rest) = some (value, rest)) :
    ReadsAs chars value := by
  intro fuel rest ends enough
  have pos := text.length_pos
  obtain ⟨fuel, rfl⟩ : ∃ less, fuel = less + 1 := ⟨fuel - 1, by omega⟩
  exact ⟨[], List.forall_mem_nil _, read fuel rest ends enough⟩

/-- Every text of a value is read as this value. -/
theorem Denotes.readsAs {chars : List Char} {value : Json} (text : Denotes chars value) :
    ReadsAs chars value := by
  induction text with
  | @blankBefore blank chars value space _ ih =>
    intro fuel rest ends enough
    have skipped : skipSpace (blank :: (chars ++ rest)) = skipSpace (chars ++ rest) := by
      rw [skipSpace, List.dropWhile_cons, if_pos space, skipSpace]
    rw [List.length_cons] at enough
    rw [List.cons_append, readValue_congr skipped]
    exact ih fuel rest ends (by omega)
  | @blankAfter blank chars value space _ ih =>
    intro fuel rest ends enough
    rw [List.length_append] at enough
    obtain ⟨blanks, all_blank, read⟩ := ih fuel (blank :: rest) (endsNumber_of_isSpace space rest)
      (by omega)
    refine ⟨blanks ++ [blank], ?_, ?_⟩
    · exact List.forall_mem_append.mpr ⟨all_blank, by simpa using space⟩
    · rw [List.append_assoc, List.append_assoc]
      exact read
  | null => exact Denotes.null.readsAs_of_succ fun _ _ _ _ => rfl
  | boolTrue => exact Denotes.boolTrue.readsAs_of_succ fun _ _ _ _ => rfl
  | boolFalse => exact Denotes.boolFalse.readsAs_of_succ fun _ _ _ _ => rfl
  | number negative whole broken scaled =>
    refine (Denotes.number negative whole broken scaled).readsAs_of_succ fun fuel rest ends _ => ?_
    have read := readNumber_append negative whole broken scaled ends
    obtain ⟨first, more, chars_eq, begins⟩ := sign_append_cons negative whole
    rw [List.append_assoc, List.append_assoc, List.append_assoc, ← read, ← List.append_assoc,
      chars_eq, List.cons_append, readValue_number begins]
  | str spelled =>
    refine (Denotes.str spelled).readsAs_of_succ fun fuel rest _ _ => ?_
    rw [List.cons_append, List.append_assoc, List.singleton_append, readValue_quote,
      spelled.readText_eq]
    rfl
  | noItems blank =>
    refine (Denotes.noItems blank).readsAs_of_succ fun fuel rest _ enough => ?_
    simp only [List.length_cons, List.length_append] at enough
    obtain ⟨fuel, rfl⟩ : ∃ less, fuel = less + 1 := ⟨fuel - 1, by omega⟩
    rw [List.cons_append, List.append_assoc, List.singleton_append, readValue_bracket,
      readItems_close blank]
    rfl
  | items texts read =>
    refine (Denotes.items texts).readsAs_of_succ fun fuel rest _ enough => ?_
    simp only [List.length_cons, List.length_append, List.length_nil] at enough
    rw [List.cons_append, List.append_assoc, List.singleton_append, readValue_bracket,
      readItems_parts rest texts read (by omega)]
    rfl
  | noMembers blank =>
    refine (Denotes.noMembers blank).readsAs_of_succ fun fuel rest _ enough => ?_
    simp only [List.length_cons, List.length_append] at enough
    obtain ⟨fuel, rfl⟩ : ∃ less, fuel = less + 1 := ⟨fuel - 1, by omega⟩
    rw [List.cons_append, List.append_assoc, List.singleton_append, readValue_brace,
      readMembers_close blank]
    rfl
  | members names texts read =>
    refine (Denotes.members names texts).readsAs_of_succ fun fuel rest _ enough => ?_
    simp only [List.length_cons, List.length_append, List.length_nil] at enough
    rw [List.cons_append, List.append_assoc, List.singleton_append, readValue_brace,
      readMembers_parts rest names read (by omega), ← ofMembers_named]
    rfl

theorem Denotes.parse_eq {text : String} {value : Json} (denotes : Denotes text.toList value) :
    parse text = some value := by
  obtain ⟨blanks, blank, read⟩ := denotes.readsAs (3 * text.toList.length + 3) [] rfl (by omega)
  have skipped := blank.skipSpace_append []
  simp only [List.append_nil] at read skipped
  rw [parse]
  simp only [read, Option.bind_eq_bind, Option.bind_some, skipped]
  rfl

end Haulage.Json
