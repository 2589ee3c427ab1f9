import Haulage.Json.Printer

/-!
# Writing texts

What the printer writes of a value without an unread part is a text of this value.  Texts between
quotes come first, then whole numbers, then lists and objects by induction on the value.
-/

namespace Haulage.Json

section Texts

variable {spelling chars : List Char}

/-- The four digits of a control character name its code. -/
theorem hexUnit_control : ∀ code < 32,
    hexUnit '0' '0' (Nat.digitChar (code / 16)) (Nat.digitChar (code % 16)) = some code := by
  decide

/-- A character as it is written in a text stands for that character. -/
theorem Spells.escapedChar (char : Char) (rest : Spells spelling chars) :
    Spells (escapedChar char ++ spelling) (char :: chars) := by
  unfold Json.escapedChar
  split
  · next char_eq => exact .short (by rw [char_eq]; rfl) rest
  split
  · next char_eq => exact .short (by rw [char_eq]; rfl) rest
  split
  · next char_eq => exact .short (by rw [char_eq]; rfl) rest
  split
  · next char_eq => exact .short (by rw [char_eq]; rfl) rest
  split
  · next char_eq => exact .short (by rw [char_eq]; rfl) rest
  split
  · next char_eq => exact .short (by rw [char_eq]; rfl) rest
  split
  · next char_eq => exact .short (by rw [char_eq]; rfl) rest
  split
  · next control =>
    have spelled := Spells.code (hexUnit_control _ control) (.inl (by omega)) rest
    rw [Char.ofNat_toNat] at spelled
    exact spelled
  · next not_quote not_escape _ _ _ _ _ visible => exact .plain not_quote not_escape visible rest

theorem spells_flatMap (chars : List Char) : Spells (chars.flatMap escapedChar) chars := by
  induction chars with
  | nil => exact .nil
  | cons char chars ih =>
    rw [List.flatMap_cons]
    exact ih.escapedChar char

theorem names_renderText (name : String) : Names (renderText name) name :=
  ⟨[], name.toList.flatMap escapedChar, [], List.forall_mem_nil _, spells_flatMap name.toList,
    List.forall_mem_nil _, rfl⟩

end Texts

section Numbers

theorem digitsValue_toDigits (n : Nat) : digitsValue (Nat.toDigits 10 n) = n := by
  have value_eq := Nat.ofDigitChars_ten_toDigits (n := n)
  rw [Nat.ofDigitChars_eq_foldl] at value_eq
  simp only [Nat.mul_comm 10] at value_eq
  exact value_eq

theorem digits_toDigits (n : Nat) : Digits (Nat.toDigits 10 n) :=
  ⟨Nat.toDigits_ne_nil, fun _ => Nat.isDigit_of_mem_toDigits (by decide) (by decide)⟩

/-- The digits of a number other than zero do not begin with a zero. -/
theorem head?_toDigits_ne {n : Nat} (pos : 0 < n) : (Nat.toDigits 10 n).head? ≠ some '0' := by
  induction n using Nat.strongRecOn with
  | ind n ih =>
    rw [Nat.toDigits_eq_if (by decide)]
    split
    · next small =>
      have nonzero : ∀ digit < 10, 0 < digit → Nat.digitChar digit ≠ '0' := by decide
      simpa using nonzero n small pos
    · next large =>
      have inner := ih (n / 10) (by omega) (by omega)
      obtain ⟨first, more, digits_eq⟩ := List.exists_cons_of_ne_nil (digits_toDigits (n / 10)).1
      rw [digits_eq] at inner ⊢
      exact inner

theorem leading_zero_toDigits (n : Nat) (zero_first : (Nat.toDigits 10 n).head? = some '0') :
    Nat.toDigits 10 n = ['0'] := by
  rcases Nat.eq_zero_or_pos n with rfl | pos
  · rfl
  · exact absurd zero_first (head?_toDigits_ne pos)

theorem whole_toDigits (n : Nat) : Whole (Nat.toDigits 10 n) :=
  ⟨digits_toDigits n, leading_zero_toDigits n⟩

theorem numberValue_toDigits (value : Int) :
    numberValue (value < 0) (Nat.toDigits 10 value.natAbs) false = int value := by
  rw [numberValue, digitsValue_toDigits]
  by_cases negative : value < 0
  · have magnitude : -(value.natAbs : Int) = value := by omega
    have nonzero : value.natAbs ≠ 0 := by omega
    simp only [negative, nonzero, decide_true, decide_false, Bool.and_false, Bool.or_false,
      Bool.false_eq_true, if_false, if_true, magnitude]
  · have magnitude : (value.natAbs : Int) = value := by omega
    simp only [negative, decide_false, Bool.false_and, Bool.or_false, Bool.false_eq_true, if_false,
      magnitude]

theorem denotes_renderInt (value : Int) : Denotes (renderInt value) (int value) := by
  have denoted := Denotes.number (value < 0) (whole_toDigits value.natAbs) .absent .absent
  rw [List.append_nil, List.append_nil] at denoted
  exact numberValue_toDigits value ▸ denoted

end Numbers

theorem renderItems_eq (items : List Json) :
    renderItems items = [','].intercalate (items.map render) := by
  induction items with
  | nil => rfl
  | cons item items ih =>
    cases items with
    | nil => rw [renderItems, List.map_cons, List.map_nil, List.intercalate_singleton]
    | cons next items =>
      have comma : renderItems (item :: next :: items) =
          item.render ++ ',' :: renderItems (next :: items) := by
        rw [renderItems]
        exact List.cons_ne_nil next items
      rw [comma, ih]
      simp only [List.map_cons, List.intercalate_cons_cons, List.append_assoc]
      rfl

/-- A member with the characters that the printer writes. -/
def renderedMember (member : String × Json) : Member :=
  ⟨renderText member.1, member.2.render, member.1, member.2⟩

theorem renderMembers_eq (members : List (String × Json)) :
    renderMembers members = [','].intercalate ((members.map renderedMember).map Member.chars) := by
  induction members with
  | nil => rfl
  | cons member members ih =>
    cases members with
    | nil =>
      rw [renderMembers, List.map_cons, List.map_nil, List.map_cons, List.map_nil,
        List.intercalate_singleton]
      rfl
    | cons next members =>
      have comma : renderMembers (member :: next :: members) =
          (renderedMember member).chars ++ ',' :: renderMembers (next :: members) := by
        rw [renderMembers, Member.chars, renderedMember, List.append_assoc]
        · rfl
        · exact List.cons_ne_nil next members
      rw [comma, ih]
      simp only [List.map_cons, List.intercalate_cons_cons, List.append_assoc]
      rfl

/-- A value without an unread part is written as a text of this value. -/
theorem Readable.denotes {value : Json} (readable : value.Readable) :
    Denotes value.render value := by
  induction readable with
  | null =>
    rw [render]
    exact .null
  | bool value =>
    cases value with
    | true =>
      rw [render]
      exact .boolTrue
    | false =>
      rw [render]
      exact .boolFalse
  | int value =>
    rw [render]
    exact denotes_renderInt value
  | str text =>
    rw [render]
    exact .str (spells_flatMap text.toList)
  | @arr items _ texts =>
    have denoted : Denotes _
        (Json.arr ((items.map fun item => (item.render, item)).map Prod.snd)) :=
      .items (List.forall_mem_map.mpr texts)
    simp only [List.map_map, Function.comp_def, List.map_id'] at denoted
    rw [render, renderItems_eq]
    exact denoted
  | @obj members _ texts =>
    have pairs_eq : (members.map renderedMember).map (fun part => (part.name, part.value)) =
        members := by
      rw [List.map_map]
      exact List.map_id members
    have denoted : Denotes _ (Json.obj ((members.map renderedMember).map
        fun part => (part.name, part.value))) :=
      .members (List.forall_mem_map.mpr fun member _ => names_renderText member.1)
        (List.forall_mem_map.mpr texts)
    rw [pairs_eq] at denoted
    rw [render, renderMembers_eq]
    exact denoted

theorem Readable.denotes_toText {value : Json} (readable : value.Readable) :
    Denotes value.toText.toList value := by
  rw [toText, String.toList_ofList]
  exact readable.denotes

end Haulage.Json
