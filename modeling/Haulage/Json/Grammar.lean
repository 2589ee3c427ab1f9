import Haulage.Json.Value

/-!
# Texts of JSON values

Which characters are a text of a value, by the grammar of JSON: blanks may stand around every value
and every name, a character of a text may be escaped in several ways, and an object may have one
name twice.  So a value has many texts, but a text has one value.
-/

namespace Haulage.Json

/-- The characters that may stand between the parts of a text. -/
def isSpace (char : Char) : Bool :=
  char == ' ' || char == '\t' || char == '\n' || char == '\r'

/-- The value of decimal digits. -/
def digitsValue (digits : List Char) : Nat :=
  digits.foldl (fun value digit => value * 10 + (digit.toNat - 48)) 0

/-- The value of a hexadecimal digit in either case. -/
def hexValue (char : Char) : Option Nat :=
  if '0' ≤ char ∧ char ≤ '9' then some (char.toNat - 48)
  else if 'a' ≤ char ∧ char ≤ 'f' then some (char.toNat - 87)
  else if 'A' ≤ char ∧ char ≤ 'F' then some (char.toNat - 55)
  else none

/-- The value of four hexadecimal digits. -/
def hexUnit (first second third fourth : Char) : Option Nat := do
  let first ← hexValue first
  let second ← hexValue second
  let third ← hexValue third
  let fourth ← hexValue fourth
  return ((first * 16 + second) * 16 + third) * 16 + fourth

/-- The character of a short escape. -/
def shortEscape : Char → Option Char
  | '"' => some '"'
  | '\\' => some '\\'
  | '/' => some '/'
  | 'b' => some '\x08'
  | 'f' => some '\x0c'
  | 'n' => some '\n'
  | 'r' => some '\r'
  | 't' => some '\t'
  | _ => none

/-- The character of two escapes by code, each of which names one half of it. -/
def pairedChar (high low : Nat) : Char :=
  Char.ofNat (0x10000 + (high - 0xD800) * 0x400 + (low - 0xDC00))

/-- The value of a number with these digits, if nothing follows them.  A number with a fraction or
an exponent is not whole, and neither is a negative zero. -/
def numberValue (negative : Bool) (digits : List Char) (followed : Bool) : Json :=
  let magnitude := digitsValue digits
  if followed || (negative && magnitude = 0) then unread
  else int (if negative then -magnitude else magnitude)

/-- The characters stand for others between the quotes of a text. -/
inductive Spells : List Char → List Char → Prop
  | nil : Spells [] []
  | plain {char : Char} {spelling chars : List Char} (not_quote : char ≠ '"')
      (not_escape : char ≠ '\\') (visible : ¬ char.toNat < 32) (rest : Spells spelling chars) :
      Spells (char :: spelling) (char :: chars)
  | short {mark char : Char} {spelling chars : List Char} (named : shortEscape mark = some char)
      (rest : Spells spelling chars) : Spells ('\\' :: mark :: spelling) (char :: chars)
  | code {first second third fourth : Char} {code : Nat} {spelling chars : List Char}
      (named : hexUnit first second third fourth = some code)
      (whole : code < 0xD800 ∨ 0xE000 ≤ code) (rest : Spells spelling chars) :
      Spells ('\\' :: 'u' :: first :: second :: third :: fourth :: spelling)
        (Char.ofNat code :: chars)
  | pair {first second third fourth fifth sixth seventh eighth : Char} {high low : Nat}
      {spelling chars : List Char} (named : hexUnit first second third fourth = some high)
      (first_half : 0xD800 ≤ high ∧ high < 0xDC00)
      (other_named : hexUnit fifth sixth seventh eighth = some low)
      (second_half : 0xDC00 ≤ low ∧ low < 0xE000) (rest : Spells spelling chars) :
      Spells ('\\' :: 'u' :: first :: second :: third :: fourth ::
        '\\' :: 'u' :: fifth :: sixth :: seventh :: eighth :: spelling)
        (pairedChar high low :: chars)

/-- There are only blanks. -/
def Blank (chars : List Char) : Prop := ∀ char ∈ chars, isSpace char = true

/-- There are only decimal digits, and at least one. -/
def Digits (chars : List Char) : Prop := chars ≠ [] ∧ ∀ char ∈ chars, char.isDigit = true

/-- The digits of a whole number: a zero alone, or digits that begin with another one. -/
def Whole (chars : List Char) : Prop := Digits chars ∧ (chars.head? = some '0' → chars = ['0'])

/-- A fraction, or none. -/
inductive Fraction : List Char → Prop
  | absent : Fraction []
  | present {digits : List Char} (follow : Digits digits) : Fraction ('.' :: digits)

/-- An exponent, or none. -/
inductive Exponent : List Char → Prop
  | absent : Exponent []
  | present {mark : Char} {sign digits : List Char} (marked : mark = 'e' ∨ mark = 'E')
      (signed : sign = [] ∨ sign = ['+'] ∨ sign = ['-']) (follow : Digits digits) :
      Exponent (mark :: (sign ++ digits))

/-- The sign of a number. -/
def sign (negative : Bool) : List Char := if negative then ['-'] else []

/-- A name between quotes, with blanks around them. -/
def Names (chars : List Char) (name : String) : Prop :=
  ∃ before spelling after, Blank before ∧ Spells spelling name.toList ∧ Blank after ∧
    chars = before ++ '"' :: (spelling ++ '"' :: after)

/-- A member of an object, with the characters that it is written in. -/
structure Member where
  /-- The characters of its name. -/
  nameChars : List Char
  /-- The characters of its value. -/
  valueChars : List Char
  /-- Its name. -/
  name : String
  /-- Its value. -/
  value : Json

/-- The characters of a member. -/
def Member.chars (member : Member) : List Char := member.nameChars ++ ':' :: member.valueChars

/-- The characters are a text of the value. -/
inductive Denotes : List Char → Json → Prop
  | blankBefore {blank : Char} {chars : List Char} {value : Json} (space : isSpace blank = true)
      (text : Denotes chars value) : Denotes (blank :: chars) value
  | blankAfter {blank : Char} {chars : List Char} {value : Json} (space : isSpace blank = true)
      (text : Denotes chars value) : Denotes (chars ++ [blank]) value
  | null : Denotes ['n', 'u', 'l', 'l'] null
  | boolTrue : Denotes ['t', 'r', 'u', 'e'] (bool true)
  | boolFalse : Denotes ['f', 'a', 'l', 's', 'e'] (bool false)
  | number (negative : Bool) {digits fraction exponent : List Char} (whole : Whole digits)
      (broken : Fraction fraction) (scaled : Exponent exponent) :
      Denotes (sign negative ++ (digits ++ (fraction ++ exponent)))
        (numberValue negative digits (!fraction.isEmpty || !exponent.isEmpty))
  | str {spelling : List Char} {text : String} (spelled : Spells spelling text.toList) :
      Denotes ('"' :: (spelling ++ ['"'])) (str text)
  | noItems {blanks : List Char} (blank : Blank blanks) :
      Denotes ('[' :: (blanks ++ [']'])) (arr [])
  | items {parts : List (List Char × Json)}
      (texts : ∀ part ∈ parts, Denotes part.1 part.2) :
      Denotes ('[' :: ([','].intercalate (parts.map Prod.fst) ++ [']'])) (arr (parts.map Prod.snd))
  | noMembers {blanks : List Char} (blank : Blank blanks) :
      Denotes ('\x7b' :: (blanks ++ ['\x7d'])) (obj [])
  | members {parts : List Member}
      (names : ∀ part ∈ parts, Names part.nameChars part.name)
      (texts : ∀ part ∈ parts, Denotes part.valueChars part.value) :
      Denotes ('\x7b' :: ([','].intercalate (parts.map Member.chars) ++ ['\x7d']))
        (obj (parts.map fun part => (part.name, part.value)))

/-- No part of the value is unread. -/
inductive Readable : Json → Prop
  | null : Readable null
  | bool (value : Bool) : Readable (bool value)
  | int (value : Int) : Readable (int value)
  | str (text : String) : Readable (str text)
  | arr {items : List Json} (items_readable : ∀ item ∈ items, Readable item) : Readable (arr items)
  | obj {members : List (String × Json)}
      (members_readable : ∀ member ∈ members, Readable member.2) : Readable (obj members)

end Haulage.Json
