import Haulage.Json.Grammar

/-!
# Writing JSON

Values are written without blanks.  In a text only quotes, backslashes and control characters are
escaped, the latter by their short forms or else by four hexadecimal digits.
-/

namespace Haulage.Json

/-- A control character by four hexadecimal digits; its code is below 256. -/
def controlEscape (char : Char) : List Char :=
  ['\\', 'u', '0', '0', Nat.digitChar (char.toNat / 16), Nat.digitChar (char.toNat % 16)]

/-- A character as it stands in a text. -/
def escapedChar (char : Char) : List Char :=
  if char = '"' then ['\\', '"']
  else if char = '\\' then ['\\', '\\']
  else if char = '\x08' then ['\\', 'b']
  else if char = '\t' then ['\\', 't']
  else if char = '\n' then ['\\', 'n']
  else if char = '\x0c' then ['\\', 'f']
  else if char = '\r' then ['\\', 'r']
  else if char.toNat < 32 then controlEscape char
  else [char]

/-- A text between quotes. -/
def renderText (text : String) : List Char := '"' :: text.toList.flatMap escapedChar ++ ['"']

/-- A whole number in decimal digits. -/
def renderInt (value : Int) : List Char :=
  sign (value < 0) ++ Nat.toDigits 10 value.natAbs

mutual

/-- The characters of a value.  What cannot be read is written as the null value. -/
def render : Json → List Char
  | null => ['n', 'u', 'l', 'l']
  | bool true => ['t', 'r', 'u', 'e']
  | bool false => ['f', 'a', 'l', 's', 'e']
  | int value => renderInt value
  | str text => renderText text
  | arr items => '[' :: renderItems items ++ [']']
  | obj members => '\x7b' :: renderMembers members ++ ['\x7d']
  | unread => ['n', 'u', 'l', 'l']

/-- The characters of list items, with commas between them. -/
def renderItems : List Json → List Char
  | [] => []
  | [item] => render item
  | item :: items => render item ++ ',' :: renderItems items

/-- The characters of members, with commas between them. -/
def renderMembers : List (String × Json) → List Char
  | [] => []
  | [(name, value)] => renderText name ++ ':' :: render value
  | (name, value) :: members =>
      renderText name ++ ':' :: (render value ++ ',' :: renderMembers members)

end

/-- The text of a value. -/
def toText (value : Json) : String := String.ofList value.render

end Haulage.Json
