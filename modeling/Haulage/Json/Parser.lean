import Haulage.Json.Grammar

/-!
# Reading JSON

A document is one value with blanks around it.  Every function reads from the front of the
characters and answers with what it has read and the characters that are left, or with nothing if
they are not well formed.
-/

namespace Haulage.Json

/-- The characters from the first that is no blank on. -/
def skipSpace (chars : List Char) : List Char := chars.dropWhile isSpace

/-- The characters after a word, if they begin with it. -/
def skipWord (word chars : List Char) : Option (List Char) :=
  if chars.take word.length = word then some (chars.drop word.length) else none

/-- The longest run of decimal digits at the front, if there is a digit. -/
def readDigits (chars : List Char) : Option (List Char × List Char) :=
  match chars.takeWhile Char.isDigit with
  | [] => none
  | digits => some (digits, chars.dropWhile Char.isDigit)

/-- The digits of a whole number: a zero alone, or digits that begin with another one. -/
def readWhole : List Char → Option (List Char × List Char)
  | '0' :: rest => some (['0'], rest)
  | chars => readDigits chars

/-- What follows a fraction, if there is one.  Also tells whether there was. -/
def skipFraction : List Char → Option (Bool × List Char)
  | '.' :: rest => (readDigits rest).map fun (_, rest) => (true, rest)
  | chars => some (false, chars)

/-- What follows the sign of an exponent, if there is one. -/
def skipSign : List Char → List Char
  | '+' :: rest => rest
  | '-' :: rest => rest
  | chars => chars

/-- What follows an exponent, if there is one.  Also tells whether there was. -/
def skipExponent : List Char → Option (Bool × List Char)
  | 'e' :: rest => (readDigits (skipSign rest)).map fun (_, rest) => (true, rest)
  | 'E' :: rest => (readDigits (skipSign rest)).map fun (_, rest) => (true, rest)
  | chars => some (false, chars)

/-- A number without its sign. -/
def readUnsigned (negative : Bool) (chars : List Char) : Option (Json × List Char) := do
  let (digits, rest) ← readWhole chars
  let (hasFraction, rest) ← skipFraction rest
  let (hasExponent, rest) ← skipExponent rest
  return (numberValue negative digits (hasFraction || hasExponent), rest)

/-- A number. -/
def readNumber : List Char → Option (Json × List Char)
  | '-' :: rest => readUnsigned true rest
  | chars => readUnsigned false chars

/-- A part of a text: a character, or half of one, which an escape names by its code. -/
inductive Piece where
  /-- A whole character. -/
  | char (char : Char)
  /-- The first half of a character. -/
  | high (code : Nat)
  /-- The second half of a character. -/
  | low (code : Nat)
deriving DecidableEq

/-- The part of a text that an escape by code names. -/
def pieceOfUnit (code : Nat) : Piece :=
  if 0xD800 ≤ code ∧ code < 0xDC00 then .high code
  else if 0xDC00 ≤ code ∧ code < 0xE000 then .low code
  else .char (Char.ofNat code)

/-- The characters of a text, if every half has its partner. -/
def joinPieces : List Piece → Option (List Char)
  | [] => some []
  | .char char :: pieces => (joinPieces pieces).map (char :: ·)
  | .high high :: .low low :: pieces => (joinPieces pieces).map (pairedChar high low :: ·)
  | _ => none

/-- The parts of a text up to its closing quote. -/
def readPieces : List Char → Option (List Piece × List Char)
  | [] => none
  | '"' :: rest => some ([], rest)
  | '\\' :: 'u' :: first :: second :: third :: fourth :: rest => do
      let code ← hexUnit first second third fourth
      let (pieces, rest) ← readPieces rest
      return (pieceOfUnit code :: pieces, rest)
  | '\\' :: mark :: rest => do
      let char ← shortEscape mark
      let (pieces, rest) ← readPieces rest
      return (.char char :: pieces, rest)
  | char :: rest =>
      if char.toNat < 32 then none
      else do
        let (pieces, rest) ← readPieces rest
        return (.char char :: pieces, rest)

/-- A text up to its closing quote; `none` in the place of a text that has a half character. -/
def readText (chars : List Char) : Option (Option String × List Char) := do
  let (pieces, rest) ← readPieces chars
  return ((joinPieces pieces).map String.ofList, rest)

/-- The object with these members, if all their names are texts. -/
def ofMembers (members : List (Option String × Json)) : Json :=
  match members.mapM fun (name, value) => name.map (·, value) with
  | some members => obj members
  | none => unread

mutual

/-- A value after blanks.  The fuel is more than the characters. -/
def readValue : Nat → List Char → Option (Json × List Char)
  | 0, _ => none
  | fuel + 1, chars =>
      match skipSpace chars with
      | '"' :: rest => (readText rest).map fun (text, rest) => ((text.map str).getD unread, rest)
      | '[' :: rest => (readItems fuel true rest).map fun (items, rest) => (arr items, rest)
      | '\x7b' :: rest =>
          (readMembers fuel true rest).map fun (members, rest) => (ofMembers members, rest)
      | 'n' :: rest => (skipWord ['u', 'l', 'l'] rest).map (null, ·)
      | 't' :: rest => (skipWord ['r', 'u', 'e'] rest).map (bool true, ·)
      | 'f' :: rest => (skipWord ['a', 'l', 's', 'e'] rest).map (bool false, ·)
      | chars => readNumber chars

/-- List items up to the closing bracket.  Only the first may be missing, and every other follows a
comma. -/
def readItems : Nat → Bool → List Char → Option (List Json × List Char)
  | 0, _, _ => none
  | fuel + 1, first, chars =>
      match skipSpace chars, first with
      | ']' :: rest, _ => some ([], rest)
      | ',' :: rest, false => readItem fuel rest
      | rest, true => readItem fuel rest
      | _, false => none

/-- A list item and all that follow it. -/
def readItem : Nat → List Char → Option (List Json × List Char)
  | 0, _ => none
  | fuel + 1, chars => do
      let (item, rest) ← readValue fuel chars
      let (items, rest) ← readItems fuel false rest
      return (item :: items, rest)

/-- Members up to the closing brace.  Only the first may be missing, and every other follows a
comma. -/
def readMembers : Nat → Bool → List Char → Option (List (Option String × Json) × List Char)
  | 0, _, _ => none
  | fuel + 1, first, chars =>
      match skipSpace chars, first with
      | '\x7d' :: rest, _ => some ([], rest)
      | ',' :: rest, false => readMember fuel rest
      | rest, true => readMember fuel rest
      | _, false => none

/-- A member and all that follow it. -/
def readMember : Nat → List Char → Option (List (Option String × Json) × List Char)
  | 0, _ => none
  | fuel + 1, chars =>
      match skipSpace chars with
      | '"' :: rest => do
          let (name, rest) ← readText rest
          match skipSpace rest with
          | ':' :: rest => do
              let (value, rest) ← readValue fuel rest
              let (members, rest) ← readMembers fuel false rest
              return ((name, value) :: members, rest)
          | _ => none
      | _ => none

end

/-- The value of a document, if it is well formed. -/
def parse (text : String) : Option Json := do
  let chars := text.toList
  let (value, rest) ← readValue (3 * chars.length + 3) chars
  if (skipSpace rest).isEmpty then return value else none

end Haulage.Json
